import NodeLedger.Entry.Basic
import NodeLedger.Record.Forward
import NodeLedger.Record.Invoice
import NodeLedger.Record.Settlement

/-!
Entries of invoices, payments and forwards.  A payment of the node to itself is circular, and so is
the invoice that it pays.
-/

namespace NodeLedger

/-- Notes in one line. -/
def joinNotes (notes : List String) : Value :=
  .text ("/".intercalate notes)

/-- A note with its heading, nothing for what is missing or empty. -/
def headed (heading : String) (note : Value) : List String :=
  if note.truthy then [heading ++ note.display] else []

/-! ## Invoices -/

/-- What is told of a paid invoice. -/
def Invoice.note (invoice : Invoice) : Value :=
  joinNotes <|
    headed "memo: " invoice.memo ++
    (if invoice.value.count = invoice.paid.count then []
     else ["invoice overpaid original amount: " ++ invoice.value.text ++ " msat, paid: " ++
       invoice.paid.text]) ++
    if invoice.isKeysend then ["keysend payment"] else []

/-- The entry of a paid invoice. -/
def Invoice.draft (invoice : Invoice) (circular : Bool) (context : EntryContext) :
    Except Failure Draft := do
  return {
    timestamp := invoice.settleDate
    amount := invoice.paid.count
    kind := if circular then .circularReceipt else .receipt
    txid := invoice.paymentHash
    reference := invoice.preimage
    note := invoice.note
    category := ← context.categoryOf invoice.memo
    onChain := false }

/-! ## Payments -/

/-- The reference of a payment: the sequence number tells payments of one hash apart. -/
def Payment.reference (payment : Payment) : Value :=
  .text (toString payment.sequenceNumber ++ ":" ++ payment.preimage.display)

namespace ResolvedPayment

/-- What is told of a payment. -/
def note (resolved : ResolvedPayment) : Value :=
  joinNotes (headed "memo: " resolved.description ++ headed "destination: " resolved.destination)

/-- An entry of a payment. -/
def draft (resolved : ResolvedPayment) (category : Value) (kind : EntryKind) (spent : Int)
    (reference : Value) : Draft where
  timestamp := resolved.settleTime
  amount := -spent
  kind := kind
  txid := resolved.payment.paymentHash
  reference := reference
  note := resolved.note
  category := category
  onChain := false

/-- The entries of a payment: what was paid, and the fees if there were any. -/
def drafts (resolved : ResolvedPayment) (circular : Bool) (context : EntryContext) :
    Except Failure (List Draft) := do
  let payment := resolved.payment
  let category ← context.categoryOf (resolved.description.orElse (.text ""))
  let paid := resolved.draft category (if circular then .circularPayment else .payment)
    payment.amount payment.reference
  return if payment.fee = 0 then [paid]
    else [paid, resolved.draft category (if circular then .circularPaymentFee else .fee)
      payment.fee (feeReference payment.reference)]

end ResolvedPayment

/-! ## Forwards -/

namespace Forward

/-- The name of a forward: the channels that it connects. -/
def txid (forward : Forward) : Value :=
  .text (forward.channelIn.display ++ ":" ++ forward.channelOut.display)

/-- The entries of a forward: what passes through does not change the balance, the fee does. -/
def drafts (forward : Forward) : List Draft :=
  let passed : Draft := {
    timestamp := forward.timestamp
    amount := 0
    kind := .forward
    txid := forward.txid
    reference := .text ""
    note := .text ("incoming: " ++ forward.amountIn.text ++ " msat outgoing: " ++
      forward.amountOut.text ++ " msat")
    onChain := false }
  if forward.fee.count = 0 then [passed]
  else [passed, { passed with amount := forward.fee.count, kind := .forwardFee, note := .text "" }]

end Forward

end NodeLedger
