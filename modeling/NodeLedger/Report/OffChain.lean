import NodeLedger.Entry.OffChain

/-!
The part of a report that happens off chain: invoices, payments and forwards.

A payment of the node to itself pays one of its own invoices.  Such payments are found among all
payments, not only those of the period: the invoice may be settled while the payment is still under
way.
-/

namespace NodeLedger

/-- Where the records of the node's invoices, payments and forwards come from. -/
structure OffChainSource where
  ownPubkey : Action Value
  invoices : Action (List Invoice)
  payments : Action (List Payment)
  /-- The forwards of a period. -/
  forwards : Period → Action (List Forward)
  decode : Value → Action PaymentRequest

/-! ## Circular payments -/

namespace ResolvedPayment

/-- The hash of some payments, and whether they go to the node itself. -/
structure Direction where
  hash : Value
  toSelf : Bool
  deriving Repr

/-- Add the direction of a payment.  Payments of one hash have to agree; one whose destination is
not known tells nothing. -/
def addDirection (own : Value) (directions : Table Key Direction) (resolved : ResolvedPayment) :
    Action (Table Key Direction) := do
  let hash := resolved.payment.paymentHash
  match resolved.destination.kept with
  | none =>
    Action.log .warn ("payment " ++ hash.display ++ " destination unknown")
    return directions
  | some destination =>
    let toSelf := destination.same own
    let key ← hash.key
    match directions.get? key with
    | none => return directions.insert key ⟨hash, toSelf⟩
    | some before =>
      if before.toSelf = toSelf then return directions
      else throw (.data (.differentDuplicates hash.display))

/-- The hashes of the payments that the node makes to itself. -/
def circular (own : Value) (payments : List ResolvedPayment) : Action (Table Key Value) := do
  let directions ← payments.foldlM (addDirection own) []
  return (directions.filter (·.2.toSelf)).map fun entry => (entry.1, entry.2.hash)

end ResolvedPayment

/-! ## The report -/

/-- Whether a hash is one of those of circular payments. -/
def isCircular (circular : Table Key Value) (hash : Value) : Except Failure Bool := do
  return (circular.get? (← hash.key)).isSome

/-- The entries of a paid invoice in a report with these circular payments. -/
def Invoice.reportDrafts (context : EntryContext) (circular : Table Key Value)
    (invoice : Invoice) : Except Failure (List Draft) := do
  return [← invoice.draft (← isCircular circular invoice.paymentHash) context]

/-- The entries of a payment in a report with these circular payments. -/
def ResolvedPayment.reportDrafts (context : EntryContext) (circular : Table Key Value)
    (resolved : ResolvedPayment) : Except Failure (List Draft) := do
  resolved.drafts (← isCircular circular resolved.payment.paymentHash) context

/-- The entries of records that belong to a period, not valued yet: those of each record in turn. -/
def offChainDrafts (context : EntryContext) (circular : Table Key Value) (invoices : List Invoice)
    (payments : List ResolvedPayment) (forwards : List Forward) :
    List (Except Failure (List Draft)) :=
  invoices.map (Invoice.reportDrafts context circular) ++
    payments.map (ResolvedPayment.reportDrafts context circular) ++
    forwards.map fun forward => .ok forward.drafts

/-- The entries of a period. -/
def OffChainSource.report (source : OffChainSource) (period : Period) (context : EntryContext) :
    Action (List Entry) := do
  let invoices ← source.invoices
  let settled := Invoice.select period invoices
  Action.log .info ("Retrieved: " ++ toString invoices.length ++ " invoices, " ++
    toString settled.length ++ " filtered")
  let payments ← source.payments
  let resolved ← payments.mapM (ResolvedPayment.resolve source.decode)
  let circular ← ResolvedPayment.circular (← source.ownPubkey) resolved
  let paid := ResolvedPayment.select period resolved
  ResolvedPayment.checkDistinct paid
  Action.log .info ("Retrieved: " ++ toString payments.length ++ " payments, " ++
    toString paid.length ++ " filtered, " ++ toString circular.length ++ " circular")
  let forwards ← source.forwards period
  Action.log .info ("Retrieved: " ++ toString forwards.length ++ " forwards")
  let entries ← (offChainDrafts context circular settled paid forwards).mapM
    (Draft.valueAll context)
  return entries.flatten

end NodeLedger
