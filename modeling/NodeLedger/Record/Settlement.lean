import NodeLedger.Period
import NodeLedger.Record.Payment
import NodeLedger.Value.Access

/-!
Where a payment went and when it was settled.

A payment is settled when the last of its successful parts is.  All its parts go to one node, the
last hop of any route; where no route tells, the payment request does.
-/

namespace NodeLedger

/-- A payment with what is known of its destination, its purpose and its settlement.  What is not
known is null. -/
structure ResolvedPayment where
  payment : Payment
  destination : Value := .null
  description : Value := .null
  /-- The time of the settlement, zero if the payment did not succeed. -/
  settleTime : Int := 0
  deriving Repr

namespace Payment

/-- The node at the end of the first part's route, null if the payment has no parts. -/
def routeDestination (payment : Payment) : Except Failure Value :=
  match payment.htlcs with
  | [] => .ok .null
  | htlc :: _ =>
    match htlc.hops.getLast? with
    | some hop => .ok hop.pubkey
    | none => .error (.data (.noHops payment.paymentHash.display))

/-- The nanoseconds of a second. -/
def nanoseconds : Int := 1000000000

/-- The latest time at which a successful part was resolved, in nanoseconds. -/
def resolvedLast (htlcs : List Htlc) : Int :=
  htlcs.foldl (fun latest htlc =>
    if htlc.status == .succeeded then max latest htlc.resolveTime else latest) 0

/-- The time of the settlement, zero if the payment did not succeed. -/
def settleTime (payment : Payment) : Int :=
  if payment.status == .succeeded then resolvedLast payment.htlcs / nanoseconds else 0

end Payment

namespace ResolvedPayment

variable {m : Type → Type} [Monad m]

/-- What a payment request says, nothing if there is none. -/
def requestDetails (decode : Value → m PaymentRequest) (request : Value) : m (Value × Value) :=
  if request.truthy then
    (fun decoded => (decoded.destination, decoded.description)) <$> decode request
  else pure (.null, .null)

/-- Resolve a payment. -/
def resolve (decode : Value → m PaymentRequest) (payment : Payment) : m ResolvedPayment := do
  let (requested, description) ← requestDetails decode payment.paymentRequest
  let routed := payment.routeDestination.toOption.bind Value.kept
  return { payment, destination := routed.getD requested, description,
           settleTime := payment.settleTime }

/-- The successful payments that were settled in a period. -/
def select (period : Period) (payments : List ResolvedPayment) : List ResolvedPayment :=
  payments.filter fun p => p.payment.status == .succeeded && period.contains p.settleTime

/-- Check that no two payments have one hash. -/
def checkDistinct (payments : List ResolvedPayment) : Except Failure Unit :=
  check [] (payments.map (·.payment.paymentHash))
where
  /-- Check that hashes are not among those seen so far, nor twice among themselves. -/
  check (seen : List Key) : List Value → Except Failure Unit
    | [] => .ok ()
    | hash :: rest => do
      let key ← hash.key
      if key ∈ seen then throw (.data (.duplicatePayments hash.display))
      check (key :: seen) rest

end ResolvedPayment

end NodeLedger
