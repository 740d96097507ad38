import NodeLedger.Value

/-!
Payments made by the node.  A payment is made of one or more parts, each with a route of hops.
-/

namespace NodeLedger

/-- What has become of a payment. -/
inductive PaymentStatus where
  | unknown
  | inFlight
  | succeeded
  | failed
  deriving DecidableEq, Repr, Inhabited

/-- What has become of a part of a payment. -/
inductive HtlcStatus where
  | inFlight
  | succeeded
  | failed
  deriving DecidableEq, Repr, Inhabited

namespace PaymentStatus

/-- The name of a status. -/
def name : PaymentStatus → String
  | unknown => "unknown"
  | inFlight => "in_flight"
  | succeeded => "succeeded"
  | failed => "failed"

/-- All statuses. -/
def all : List PaymentStatus := [unknown, inFlight, succeeded, failed]

end PaymentStatus

namespace HtlcStatus

/-- The name of a status. -/
def name : HtlcStatus → String
  | inFlight => "in_flight"
  | succeeded => "succeeded"
  | failed => "failed"

/-- All statuses. -/
def all : List HtlcStatus := [inFlight, succeeded, failed]

end HtlcStatus

/-- A hop of a route. -/
structure Hop where
  pubkey : Value
  channelId : Value := .text ""
  amountToForward : Int := 0
  deriving Repr

/-- A part of a payment; it is resolved at a time in nanoseconds. -/
structure Htlc where
  status : HtlcStatus
  hops : List Hop := []
  resolveTime : Int := 0
  deriving Repr

/-- A payment.  The amount and the fee are in thousandths of a satoshi. -/
structure Payment where
  paymentHash : Value
  preimage : Value
  amount : Int
  fee : Int
  status : PaymentStatus
  sequenceNumber : Int
  htlcs : List Htlc := []
  paymentRequest : Value := .text ""
  deriving Repr

/-- What the ledger uses of a payment request. -/
structure PaymentRequest where
  destination : Value
  description : Value := .text ""
  deriving Repr

end NodeLedger
