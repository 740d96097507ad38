import NodeLedger.Amount
import NodeLedger.Period

/-!
Invoices, by which the node is paid, and which of them belong to a period.
-/

namespace NodeLedger

/-- What has become of an invoice. -/
inductive InvoiceState where
  | opened
  | settled
  | canceled
  | accepted
  deriving DecidableEq, Repr, Inhabited

namespace InvoiceState

/-- The name of a state. -/
def name : InvoiceState → String
  | opened => "open"
  | settled => "settled"
  | canceled => "canceled"
  | accepted => "accepted"

/-- All states. -/
def all : List InvoiceState := [opened, settled, canceled, accepted]

end InvoiceState

/-- An invoice, with the amount asked for and the amount paid. -/
structure Invoice where
  paymentHash : Value
  preimage : Value
  memo : Value
  value : Amount
  paid : Amount
  settleDate : Int
  state : InvoiceState
  isKeysend : Bool := false
  paymentRequest : Value := .text ""
  deriving Repr

/-- The invoices settled in a period. -/
def Invoice.select (period : Period) (invoices : List Invoice) : List Invoice :=
  invoices.filter fun invoice =>
    invoice.state == .settled && period.contains invoice.settleDate

end NodeLedger
