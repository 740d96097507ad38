import Mathlib.Algebra.BigOperators.Group.List.Basic
import NodeLedger.Proofs.Report.Block

/-!
# What happened off chain adds up

The entries of a report off chain change the balance by what was received for invoices, less what
was paid out with fees, plus what was earned by forwards.

Main results:

- Theorem `Entry.sum_of_events`: the blocks of some records add up to what the records do.
- Theorem `OffChainSource.sum_of_blocks`: the blocks of a report off chain add up to what the
  selected records do.
-/

namespace NodeLedger

open List NodeLedger.Action

/-- The entries of some records, the drafts of each of which are those of one event, add up to what
the events do. -/
theorem Entry.sum_of_events {α : Type} {context : EntryContext} {timeOf totalOf : α → Int}
    {draftsOf : α → Except Failure (List Draft)} {items : List α} {blocks : List (List Entry)}
    (h : Forall₂ (fun drafts block => ∃ s t, Ends (Draft.valueAll context drafts) s block t)
      (items.map draftsOf) blocks)
    (hevent : ∀ a made, draftsOf a = .ok made → Draft.OfEvent (timeOf a) (totalOf a) made) :
    (blocks.flatten.map Entry.signedAmount).sum = (items.map totalOf).sum := by
  rw [forall₂_map_left_iff] at h
  induction h with
  | nil => rfl
  | @cons a block items blocks hblock _ ih =>
    obtain ⟨_, _, hvalue⟩ := hblock
    obtain ⟨made, hmade, hbecome⟩ := Draft.ends_valueAll hvalue
    have hsum : (block.map Entry.signedAmount).sum = totalOf a := by
      rw [Draft.map_signedAmount_eq hbecome]
      exact (hevent a made hmade).total_eq
    rw [List.flatten_cons, List.map_append, List.sum_append, List.map_cons, List.sum_cons, hsum, ih]

/-- The blocks of some invoices, payments and forwards add up to what was received for the invoices,
less what the payments cost with fees, plus the fees of the forwards. -/
theorem OffChainSource.sum_of_blocks {context : EntryContext} {circular : Table Key Value}
    {invoices : List Invoice} {payments : List ResolvedPayment} {forwards : List Forward}
    {s t : Session} {blocks : List (List Entry)}
    (h : Ends ((offChainDrafts context circular invoices payments forwards).mapM
      (Draft.valueAll context)) s blocks t) :
    (blocks.flatten.map Entry.signedAmount).sum =
      (invoices.map (·.paid.count)).sum -
        (payments.map fun paid => paid.payment.amount + paid.payment.fee).sum +
        (forwards.map (·.fee.count)).sum := by
  obtain ⟨front, passed, rfl, hfront, hpassed⟩ := forall₂_append_left h.mapM
  obtain ⟨received, paid, rfl, hreceived, hpaid⟩ := forall₂_append_left hfront
  have hforward : ∀ (forward : Forward) made,
      (.ok forward.drafts : Except Failure (List Draft)) = .ok made →
      Draft.OfEvent forward.timestamp forward.fee.count made := by
    rintro forward made ⟨⟩
    exact forward.drafts_ofEvent
  have hreceivedSum := Entry.sum_of_events hreceived fun _ _ => Invoice.reportDrafts_ofEvent
  have hpaidSum := Entry.sum_of_events hpaid fun _ _ => ResolvedPayment.reportDrafts_ofEvent
  have hpassedSum := Entry.sum_of_events hpassed hforward
  have hneg : (payments.map fun paid => -(paid.payment.amount + paid.payment.fee)).sum =
      -(payments.map fun paid => paid.payment.amount + paid.payment.fee).sum := by
    rw [List.sum_neg, List.map_map]
    rfl
  rw [List.flatten_append, List.flatten_append, List.map_append, List.map_append, List.sum_append,
    List.sum_append, hreceivedSum, hpaidSum, hpassedSum, hneg, Int.sub_eq_add_neg]

end NodeLedger
