import NodeLedger.Amount
import NodeLedger.Record.Channel
import NodeLedger.Record.Forward
import NodeLedger.Record.Invoice
import NodeLedger.Record.Settlement
import NodeLedger.Record.Transaction

/-!
Records as JSON values: objects with a field for each part of the record.  A part that has a default
may be missing when a record is read; all parts are written.
-/

namespace NodeLedger

namespace Value

/-! ## Typed fields -/

/-- A field that has to be there unless there is a default, read by a function. -/
def typedField {α : Type} (read : Value → Except Failure α) (v : Value) (key : String)
    (default : Option α := none) : Except Failure α := do
  match ← v.field? key, default with
  | some x, _ => read x
  | none, some a => return a
  | none, none => throw (.shape (.missingKey key))

/-- A text. -/
def readText : Value → Except Failure String
  | text s => .ok s
  | v => .error (.shape (.missingMember v.kind "strip"))

/-- A truth value. -/
def readBool (v : Value) : Except Failure Bool :=
  .ok v.truthy

/-- A list. -/
def readList {α : Type} (read : Value → Except Failure α) (v : Value) :
    Except Failure (List α) := do
  (← v.parts).mapM read

/-- One of the things of a kind, by its name. -/
def readName {α : Type} (kind : String) (all : List α) (name : α → String) (v : Value) :
    Except Failure α :=
  match all.find? fun a => v.isText (name a) with
  | some a => .ok a
  | none => .error (.value (.unknownName v.shown kind))

/-- The field of a text. -/
def textField (v : Value) (key : String) (default : Option String := none) :
    Except Failure String :=
  typedField readText v key default

/-- The field of a name, which is kept as it is. -/
def nameField (v : Value) (key : String) (default : Option Value := none) : Except Failure Value :=
  typedField .ok v key default

/-- The field of an integer. -/
def intField (v : Value) (key : String) (default : Option Int := none) : Except Failure Int :=
  typedField toInteger v key default

/-- The field of a truth value. -/
def boolField (v : Value) (key : String) (default : Option Bool := none) : Except Failure Bool :=
  typedField readBool v key default

end Value

open Value

/-! ## On chain -/

namespace Transaction

/-- Read a transaction. -/
def ofValue (v : Value) : Except Failure Transaction := do
  return {
    txid := ← nameField v "tx_hash"
    amount := ← intField v "amount"
    fee := ← intField v "fee"
    timestamp := ← intField v "timestamp"
    confirmations := ← intField v "confirmations" (some 1)
    label := ← nameField v "label" (some (text "")) }

/-- Write a transaction. -/
def toValue (tx : Transaction) : Value :=
  .object
    [("tx_hash", tx.txid), ("amount", .int tx.amount), ("fee", .int tx.fee),
     ("timestamp", .int tx.timestamp), ("confirmations", .int tx.confirmations),
     ("label", tx.label)]

end Transaction

namespace OpenChannel

/-- Read an open channel. -/
def ofValue (v : Value) : Except Failure OpenChannel := do
  return {
    channelPoint := ← nameField v "channel_point"
    channelId := ← nameField v "channel_id"
    remotePubkey := ← nameField v "remote_pubkey"
    capacity := ← intField v "capacity"
    openedByUs := ← boolField v "initiator" }

/-- Write an open channel. -/
def toValue (channel : OpenChannel) : Value :=
  .object
    [("channel_point", channel.channelPoint), ("channel_id", channel.channelId),
     ("remote_pubkey", channel.remotePubkey), ("capacity", .int channel.capacity),
     ("initiator", .bool channel.openedByUs)]

end OpenChannel

namespace ClosedChannel

/-- Read a closed channel. -/
def ofValue (v : Value) : Except Failure ClosedChannel := do
  let initiator := readName "Initiator" Initiator.all Initiator.name
  let closeType := readName "CloseType" CloseType.all CloseType.name
  return {
    channelPoint := ← nameField v "channel_point"
    channelId := ← nameField v "channel_id"
    remotePubkey := ← nameField v "remote_pubkey"
    capacity := ← intField v "capacity"
    closingTxid := ← nameField v "closing_tx_hash"
    settledBalance := ← intField v "settled_balance" (some 0)
    closeType := ← typedField closeType v "close_type" (some .unknown)
    openInitiator := ← typedField initiator v "open_initiator" (some .unknown)
    closeInitiator := ← typedField initiator v "close_initiator" (some .unknown) }

/-- Write a closed channel. -/
def toValue (channel : ClosedChannel) : Value :=
  .object
    [("channel_point", channel.channelPoint), ("channel_id", channel.channelId),
     ("remote_pubkey", channel.remotePubkey), ("capacity", .int channel.capacity),
     ("closing_tx_hash", channel.closingTxid),
     ("settled_balance", .int channel.settledBalance),
     ("close_type", .text channel.closeType.name),
     ("open_initiator", .text channel.openInitiator.name),
     ("close_initiator", .text channel.closeInitiator.name)]

end ClosedChannel

/-! ## Off chain -/

namespace Invoice

/-- Read an invoice. -/
def ofValue (v : Value) : Except Failure Invoice := do
  return {
    paymentHash := ← nameField v "payment_hash"
    preimage := ← nameField v "preimage"
    memo := ← nameField v "memo"
    value := Amount.ofValue (← v.required "value_msat")
    paid := Amount.ofValue (← v.required "amount_paid_msat")
    settleDate := ← intField v "settle_date"
    state := ← typedField (readName "InvoiceState" InvoiceState.all InvoiceState.name) v "state"
    isKeysend := ← boolField v "is_keysend" (some false)
    paymentRequest := ← nameField v "payment_request" (some (text "")) }

/-- Write an invoice. -/
def toValue (invoice : Invoice) : Value :=
  .object
    [("payment_hash", invoice.paymentHash), ("preimage", invoice.preimage),
     ("memo", invoice.memo), ("value_msat", invoice.value.toValue),
     ("amount_paid_msat", invoice.paid.toValue), ("settle_date", .int invoice.settleDate),
     ("state", .text invoice.state.name), ("is_keysend", .bool invoice.isKeysend),
     ("payment_request", invoice.paymentRequest)]

end Invoice

namespace Hop

/-- Read a hop. -/
def ofValue (v : Value) : Except Failure Hop := do
  return {
    pubkey := ← nameField v "pubkey"
    channelId := ← nameField v "channel_id" (some (text ""))
    amountToForward := ← intField v "amount_to_forward_msat" (some 0) }

/-- Write a hop. -/
def toValue (hop : Hop) : Value :=
  .object
    [("pubkey", hop.pubkey), ("channel_id", hop.channelId),
     ("amount_to_forward_msat", .int hop.amountToForward)]

end Hop

namespace Htlc

/-- Read a part of a payment. -/
def ofValue (v : Value) : Except Failure Htlc := do
  return {
    status := ← typedField (readName "HtlcStatus" HtlcStatus.all HtlcStatus.name) v "status"
    hops := ← typedField (readList Hop.ofValue) v "hops" (some [])
    resolveTime := ← intField v "resolve_time_ns" (some 0) }

/-- Write a part of a payment. -/
def toValue (htlc : Htlc) : Value :=
  .object
    [("status", .text htlc.status.name), ("hops", .list (htlc.hops.map Hop.toValue)),
     ("resolve_time_ns", .int htlc.resolveTime)]

end Htlc

namespace Payment

/-- Read a payment. -/
def ofValue (v : Value) : Except Failure Payment := do
  let status := readName "PaymentStatus" PaymentStatus.all PaymentStatus.name
  return {
    paymentHash := ← nameField v "payment_hash"
    preimage := ← nameField v "preimage"
    amount := ← intField v "amount_msat"
    fee := ← intField v "fee_msat"
    status := ← typedField status v "status"
    sequenceNumber := ← intField v "sequence_number"
    htlcs := ← typedField (readList Htlc.ofValue) v "htlcs" (some [])
    paymentRequest := ← nameField v "payment_request" (some (text "")) }

/-- Write a payment. -/
def toValue (payment : Payment) : Value :=
  .object
    [("payment_hash", payment.paymentHash), ("preimage", payment.preimage),
     ("amount_msat", .int payment.amount), ("fee_msat", .int payment.fee),
     ("status", .text payment.status.name), ("sequence_number", .int payment.sequenceNumber),
     ("htlcs", .list (payment.htlcs.map Htlc.toValue)),
     ("payment_request", payment.paymentRequest)]

end Payment

/-- Read a payment with what is known of it. -/
def ResolvedPayment.ofValue (v : Value) : Except Failure ResolvedPayment := do
  return {
    payment := ← typedField Payment.ofValue v "payment"
    destination := ← nameField v "destination" (some null)
    description := ← nameField v "description" (some null)
    settleTime := ← intField v "settle_time" (some 0) }

namespace PaymentRequest

/-- Read what the ledger uses of a payment request. -/
def ofValue (v : Value) : Except Failure PaymentRequest := do
  return {
    destination := ← nameField v "destination"
    description := ← nameField v "description" (some (text "")) }

/-- Write what the ledger uses of a payment request. -/
def toValue (request : PaymentRequest) : Value :=
  .object
    [("destination", request.destination), ("description", request.description)]

end PaymentRequest

namespace Forward

/-- Read a forward. -/
def ofValue (v : Value) : Except Failure Forward := do
  return {
    timestamp := ← intField v "timestamp"
    channelIn := ← nameField v "channel_in"
    channelOut := ← nameField v "channel_out"
    amountIn := Amount.ofValue (← v.required "amount_in_msat")
    amountOut := Amount.ofValue (← v.required "amount_out_msat")
    fee := Amount.ofValue (← v.required "fee_msat") }

/-- Write a forward. -/
def toValue (forward : Forward) : Value :=
  .object
    [("timestamp", .int forward.timestamp), ("channel_in", forward.channelIn),
     ("channel_out", forward.channelOut), ("amount_in_msat", forward.amountIn.toValue),
     ("amount_out_msat", forward.amountOut.toValue), ("fee_msat", forward.fee.toValue)]

end Forward

end NodeLedger
