import NodeLedger.Node.History
import NodeLedger.Node.Payment
import NodeLedger.Report.Node

/-!
The records of a node, as it gives them when it is asked.  What is fetched is remembered until
`Node.forget`.
-/

namespace NodeLedger.Node

/-- Remember nothing of the node. -/
def forget : Action Unit :=
  NodeCache.update fun _ => {}

/-- The records on chain. -/
def onChain : OnChainSource where
  transactions := History.transactions
  sweeps := History.sweeps
  openChannels := Channel.openChannels
  closedChannels := Channel.closedChannels
  feeLookup := History.feeLookup

/-- Ask the node for its public key, and remember it. -/
def fetchPubkey : Action Value := do
  let pubkey ← (← Rpc.ask "getinfo").required "id"
  NodeCache.update fun cache => { cache with pubkey := pubkey.kept }
  return pubkey

/-- The public key of the node, fetched at most once if the node has one. -/
def pubkey : Action Value := do
  match (← NodeCache.current).pubkey with
  | some pubkey => return pubkey
  | none => fetchPubkey

/-- Ask the node what a payment request says. -/
def decode (request : Value) : Action PaymentRequest := do
  PaymentRequest.ofDecoded (← Rpc.call "decode" (.object [("string", request)]))

/-- The invoices of the node. -/
def invoices : Action (List Invoice) := do
  Invoice.readAll (← Rpc.ask "listinvoices")

/-- The payments of the node. -/
def payments : Action (List Payment) := do
  Payment.readAll (← Rpc.ask "listsendpays")

/-- The forwards of a period that were settled. -/
def forwards (period : Period) : Action (List Forward) := do
  Forward.readAll period (← Rpc.call "listforwards" (.object [("status", .text "settled")]))

/-- The records off chain. -/
def offChain : OffChainSource where
  ownPubkey := pubkey
  invoices := invoices
  payments := payments
  forwards := forwards
  decode := decode

/-- All records. -/
def source : NodeSource :=
  ⟨onChain, offChain⟩

end NodeLedger.Node
