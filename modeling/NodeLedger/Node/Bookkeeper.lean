import NodeLedger.Amount
import NodeLedger.Record.Transaction
import NodeLedger.Session

/-!
The events of the bookkeeper, a record of everything that happened to the node's accounts.

* `Bookkeeper.transactions` are the transactions of the wallet: the sums of its events.
* `Bookkeeper.sweeps` are the deposits into the wallet that come from channels.
* `Bookkeeper.fee` is what was paid on chain for a transaction.
* `Bookkeeper.closings` are the transactions that closed channels.
-/

namespace NodeLedger.Bookkeeper

/-! ## Fetching -/

/-- Ask the node for the events, and remember them. -/
def fetch : Action Value := do
  let result ← Rpc.ask "bkpr-listaccountevents"
  let events ← result.fieldD "events" (.list [])
  NodeCache.update fun cache => { cache with events := events.kept }
  let count ← events.size
  Action.log .debug ("Retrieved: " ++ toString count ++ " bookkeeper events")
  return events

/-- The events as the node gives them, fetched at most once. -/
def given : Action Value := do
  match (← NodeCache.current).events with
  | some events => return events
  | none => fetch

/-- The events one by one. -/
def events : Action (List Value) := do
  (← given).parts

/-- Find out whether the bookkeeper answers. -/
def probe : Action Bool := do
  match ← Action.attempt given with
  | .ok _ => return true
  | .error (.rpc fault) =>
    Action.log .warn ("bookkeeper not available, using wallet history: " ++ fault.message)
    return false
  | .error failure => throw failure

/-- Whether the bookkeeper answers, found out at most once. -/
def available : Action Bool := do
  match (← NodeCache.current).bookkeeper with
  | some answer => return answer
  | none =>
    let answer ← probe
    NodeCache.update fun cache => { cache with bookkeeper := some answer }
    return answer

/-! ## Reading events -/

/-- The account of the wallet. -/
def walletAccount : String := "wallet"

/-- What a text holds in front of its first colon. -/
def beforeColon : Value → Except Failure Value
  | .text s => .ok (.text (String.ofList (s.toList.takeWhile (· != ':'))))
  | v => .error (.shape (.missingMember v.kind "split"))

/-- The transaction to which an event belongs, the spending one for a withdrawal; empty if there is
none. -/
def eventTxid (event : Value) : Except Failure Value := do
  let spending ← event.field "spending_txid"
  if spending.truthy then return spending
  let txid ← event.field "txid"
  if txid.truthy then return txid
  let outpoint ← event.field "outpoint"
  if outpoint.truthy then beforeColon outpoint else return .text ""

/-- What an event of the wallet records. -/
inductive Effect where
  /-- A change of the balance by a transaction. -/
  | chain (net timestamp : Int) (confirmed : Bool) (label : Value)
  /-- A fee paid, or given back. -/
  | fee (paid : Int)
  | other
  deriving Repr

/-- An event of the wallet; the key of its transaction is the one to which it belongs. -/
structure WalletEvent where
  key : Key
  txid : Value
  effect : Effect
  deriving Repr

/-- What an event credits less what it debits. -/
def net (event : Value) : Except Failure Int := do
  return (← Amount.field event "credit_msat").count - (← Amount.field event "debit_msat").count

/-- What an event records. -/
def readEffect (event : Value) : Except Failure Effect := do
  let net ← net event
  let type ← event.field "type"
  if type.isText "onchain_fee" then return .fee (-net)
  if !type.isText "chain" then return .other
  let timestamp ← (← event.fieldD "timestamp" (.int 0)).toInteger
  let confirmed := (← event.field "blockheight").truthy
  return .chain net timestamp confirmed ((← event.field "description").orElse (.text ""))

/-- An event, if it is one of the wallet and belongs to a transaction. -/
def readWalletEvent (event : Value) : Except Failure (Option WalletEvent) := do
  if !(← event.field "account").isText walletAccount then return none
  let txid ← eventTxid event
  if !txid.truthy then return none
  let key ← txid.key
  return some ⟨key, txid, ← readEffect event⟩

/-! ## Transactions of the wallet -/

namespace WalletEvent

/-- The changes of the balance by a transaction. -/
def chain (events : List WalletEvent) (key : Key) : List (Int × Int × Bool × Value) :=
  events.filterMap fun event =>
    match event.effect with
    | .chain net timestamp confirmed label =>
      if event.key == key then some (net, timestamp, confirmed, label) else none
    | _ => none

/-- The fees recorded for a transaction. -/
def fees (events : List WalletEvent) (key : Key) : List Int :=
  events.filterMap fun event =>
    match event.effect with
    | .fee paid => if event.key == key then some paid else none
    | _ => none

/-- The transaction with a key: the sum of its events, at the time of the last one, with the id of
the first one and the first label that is not empty.  There is none if its events change no
balance. -/
def transaction? (events : List WalletEvent) (key : Key) : Option Transaction := do
  let changes := chain events key
  if changes.isEmpty then none
  else return {
    txid := (← events.find? (·.key == key)).txid
    amount := Amount.sats (Amount.total (changes.map (·.1)))
    fee := Amount.sats (Amount.total (fees events key)).natAbs
    timestamp := (changes.map (·.2.1)).foldl max 0
    confirmations := if changes.any (·.2.2.1) then 1 else 0
    label := ((changes.map (·.2.2.2)).find? Value.truthy).getD (.text "") }

end WalletEvent

/-- The transactions of the wallet, in the order of their first events. -/
def transactions (events : List Value) : Except Failure (List Transaction) := do
  let events := (← events.mapM readWalletEvent).filterMap id
  return ((events.map (·.key)).eraseDups).filterMap (WalletEvent.transaction? events)

/-! ## Sweeps, fees and closings -/

/-- The transaction of an event that deposits something of a channel into the wallet. -/
def readSweep (event : Value) : Except Failure (Option Value) := do
  if !(← event.field "account").isText walletAccount then return none
  if !(← event.field "tag").isText "deposit" then return none
  if !(← event.field "origin").truthy then return none
  let txid ← eventTxid event
  return if txid.truthy then some txid else none

/-- The transactions that sweep outputs of channels into the wallet, each once. -/
def sweeps (events : List Value) : Except Failure (List Value) := do
  let txids := (← events.mapM readSweep).filterMap id
  return txids.foldl (fun done txid => if done.any txid.same then done else done ++ [txid]) []

/-- What an event records of the fee of a transaction. -/
def readFee (txid event : Value) : Except Failure (Option Int) := do
  if !(← event.field "type").isText "onchain_fee" then return none
  if !(← event.field "txid").same txid then return none
  return some (← net event)

/-- The fee of a transaction in satoshis, whatever accounts paid it. -/
def fee (txid : Value) (events : List Value) : Except Failure Int := do
  return Amount.sats (Amount.total ((← events.mapM (readFee txid)).filterMap id)).natAbs

/-- The outpoint that an event spends to close a channel, and the transaction that does. -/
def readClosing (event : Value) : Except Failure (Option (Key × Value)) := do
  if !(← event.field "tag").isText "channel_close" then return none
  let outpoint ← event.field "outpoint"
  let spending ← event.field "spending_txid"
  if !outpoint.truthy || !spending.truthy then return none
  return some (← outpoint.key, spending)

/-- The transactions that closed channels, by the outpoints of the channels. -/
def closings (events : List Value) : Except Failure (Table Key Value) := do
  return Table.ofList ((← events.mapM readClosing).filterMap id)

end NodeLedger.Bookkeeper
