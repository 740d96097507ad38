import NodeLedger.Record.Json
import NodeLedger.Report.Node

/-!
Doubles of what a report depends on: a node whose records are all known beforehand, and price
services whose answers are written down.
-/

namespace NodeLedger

/-- The records of a node.  A transaction without a recorded fee has none to look up, and a payment
request may be recorded as one that cannot be decoded. -/
structure NodeRecords where
  transactions : List Transaction := []
  openChannels : List OpenChannel := []
  closedChannels : List ClosedChannel := []
  sweeps : List Value := []
  invoices : List Invoice := []
  payments : List Payment := []
  forwards : List Forward := []
  /-- The fees of transactions in satoshis, if fees can be looked up. -/
  fees : Option (Table Key Int) := none
  ownPubkey : Value := .text ""
  paymentRequests : Table Key (Except ValueFault PaymentRequest) := []

/-- What is recorded under a key, which has to be there. -/
def recorded {α : Type} (entries : Table Key α) (v : Value) : Except Failure α := do
  match entries.get? (← v.key) with
  | some a => return a
  | none => throw (.shape (.missingKey v.display))

/-- The look-up of recorded fees. -/
def recordedFees (fees : Table Key Int) (txid : Value) : Action Int :=
  recorded fees txid

namespace NodeRecords

/-- Decode a recorded payment request. -/
def decode (requests : Table Key (Except ValueFault PaymentRequest)) (request : Value) :
    Except Failure PaymentRequest := do
  match ← recorded requests request with
  | .ok decoded => return decoded
  | .error fault => throw (.value fault)

/-- The source of the records on chain. -/
def onChain (records : NodeRecords) : OnChainSource where
  transactions := return records.transactions
  sweeps := return records.sweeps
  openChannels := return records.openChannels
  closedChannels := return records.closedChannels
  feeLookup := return records.fees.map recordedFees

/-- The source of the records off chain.  The recorded forwards are those of the period. -/
def offChain (records : NodeRecords) : OffChainSource where
  ownPubkey := return records.ownPubkey
  invoices := return records.invoices
  payments := return records.payments
  forwards := fun _ => return records.forwards
  decode := fun request => decode records.paymentRequests request

/-- The source of all records. -/
def source (records : NodeRecords) : NodeSource :=
  ⟨records.onChain, records.offChain⟩

open Value in
/-- Read the fees of transactions, none for null. -/
def readFees : Value → Except Failure (Option (Table Key Int))
  | .null => .ok none
  | .object fields =>
    some <$> fields.mapM fun (txid, fee) => do return (.text txid, ← fee.toInteger)
  | v => .error (.shape (.missingMember v.kind "items"))

open Value in
/-- Read a payment request, or the text of why it cannot be decoded. -/
def readRequest (v : Value) : Except Failure (Except ValueFault PaymentRequest) := do
  match ← v.field? "fail" with
  | some reason => return .error (.undecodable reason.display)
  | none => return .ok (← PaymentRequest.ofValue v)

open Value in
/-- Read payment requests by their texts. -/
def readRequests : Value → Except Failure (Table Key (Except ValueFault PaymentRequest))
  | .object fields => fields.mapM fun (request, v) => do return (.text request, ← readRequest v)
  | v => .error (.shape (.missingMember v.kind "items"))

open Value in
/-- Read the records of a node. -/
def ofValue (v : Value) : Except Failure NodeRecords := do
  return {
    transactions := ← typedField (readList Transaction.ofValue) v "transactions" (some [])
    openChannels := ← typedField (readList OpenChannel.ofValue) v "open_channels" (some [])
    closedChannels := ← typedField (readList ClosedChannel.ofValue) v "closed_channels" (some [])
    sweeps := ← typedField (readList .ok) v "sweeps" (some [])
    invoices := ← typedField (readList Invoice.ofValue) v "invoices" (some [])
    payments := ← typedField (readList Payment.ofValue) v "payments" (some [])
    forwards := ← typedField (readList Forward.ofValue) v "forwards" (some [])
    fees := ← typedField readFees v "fees" (some none)
    ownPubkey := ← nameField v "own_pubkey" (some (text ""))
    paymentRequests := ← typedField readRequests v "payment_requests" (some []) }

end NodeRecords

/-! ## Price services -/

/-- An answer of a price service as it is written down: a lost connection, or a status and a
body. -/
structure HttpReply where
  broken : Option String := none
  status : Int := 200
  body : String := ""
  interrupts : Bool := false
  deriving DecidableEq, Repr

/-- What comes of a request that is answered so.  This double of a client refuses every status from
400 on, in words of its own. -/
def HttpReply.outcome (reply : HttpReply) : HttpOutcome where
  body :=
    match reply.broken with
    | some reason => .error reason
    | none =>
      if 400 ≤ reply.status then .error ("HTTP " ++ toString reply.status) else .ok reply.body
  interrupts := reply.interrupts

/-- Behind the answers that are written down there are none. -/
instance : Coe (List HttpReply) HttpOutcomes where
  coe replies := { listed := replies.map HttpReply.outcome, silence := "no response scripted" }

end NodeLedger
