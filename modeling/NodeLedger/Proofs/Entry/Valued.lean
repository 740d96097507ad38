import NodeLedger.Entry.Basic
import NodeLedger.Proofs.Session.Outcome

/-!
# Drafts and their entries

A draft becomes an entry at the price of its time.  All that a report adds to its drafts are the
price and the value.

Main results:

- Theorem `Draft.ends_value`: a draft that is valued ends as the entry that it becomes.
- Theorem `Draft.ends_valueAll` says so of several drafts.
- Theorem `Draft.Becomes.valuedBy`: an entry has the price of its time, and the value of its amount
  at that price.
-/

namespace NodeLedger

open List NodeLedger.Action

/-- An entry has the price of its time, and the value of its amount at that price. -/
structure Entry.ValuedBy (priceAt : Int → Except Failure Price) (entry : Entry) : Prop where
  price_eq : priceAt entry.timestamp = .ok entry.price
  value_eq : NodeLedger.fiatValue entry.price.perBitcoin entry.amount = .ok entry.fiatValue

namespace Draft

/-- An entry is what a draft becomes at the price of its time. -/
def Becomes (priceAt : Int → Except Failure Price) (draft : Draft) (entry : Entry) : Prop :=
  ∃ price value, priceAt draft.timestamp = .ok price ∧
    fiatValue price.perBitcoin draft.amount.natAbs = .ok value ∧ entry = draft.priced price value

variable {priceAt : Int → Except Failure Price} {draft : Draft} {entry : Entry}

/-- An entry is valued at the price of its time. -/
theorem Becomes.valuedBy (h : draft.Becomes priceAt entry) : entry.ValuedBy priceAt := by
  obtain ⟨price, value, hprice, hvalue, rfl⟩ := h
  exact ⟨hprice, hvalue⟩

theorem Becomes.timestamp_eq (h : draft.Becomes priceAt entry) :
    entry.timestamp = draft.timestamp := by
  obtain ⟨price, value, -, -, rfl⟩ := h
  exact timestamp_priced draft price value

theorem Becomes.kind_eq (h : draft.Becomes priceAt entry) : entry.kind = draft.kind := by
  obtain ⟨price, value, -, -, rfl⟩ := h
  exact kind_priced draft price value

theorem Becomes.txid_eq (h : draft.Becomes priceAt entry) : entry.txid = draft.txid := by
  obtain ⟨price, value, -, -, rfl⟩ := h
  rfl

theorem Becomes.signedAmount_eq (h : draft.Becomes priceAt entry) :
    entry.signedAmount = draft.amount := by
  obtain ⟨price, value, -, -, rfl⟩ := h
  exact signedAmount_priced draft price value

/-- The entries of drafts have the kinds of the drafts. -/
theorem map_kind_eq {drafts : List Draft} {entries : List Entry}
    (h : Forall₂ (Becomes priceAt) drafts entries) :
    entries.map (·.kind) = drafts.map (·.kind) :=
  (map_eq_map_of_forall₂ h fun _ _ _ hbecomes => hbecomes.kind_eq.symm).symm

/-- The entries of drafts add to the balance what the drafts do. -/
theorem map_signedAmount_eq {drafts : List Draft} {entries : List Entry}
    (h : Forall₂ (Becomes priceAt) drafts entries) :
    entries.map Entry.signedAmount = drafts.map (·.amount) := by
  induction h with
  | nil => rfl
  | cons hbecomes _ ih => rw [List.map_cons, List.map_cons, hbecomes.signedAmount_eq, ih]

/-- Valuing a draft makes the entry that it becomes, and notes the time. -/
theorem ends_value {context : EntryContext} {s t : Session} :
    Ends (draft.value context) s entry t ↔
      draft.Becomes context.priceAt entry ∧ t = s.noteValued draft.timestamp := by
  unfold value entryAt Becomes
  simp only [ends_bind, ends_modify, ends_lift, bind_eq_ok_iff]
  constructor
  · rintro ⟨_, _, rfl, price, _, ⟨hprice, rfl⟩, ⟨value, hvalue, hentry⟩, rfl⟩
    cases hentry
    exact ⟨⟨price, value, hprice, hvalue, rfl⟩, rfl⟩
  · rintro ⟨⟨price, value, hprice, hvalue, rfl⟩, rfl⟩
    exact ⟨(), _, rfl, price, _, ⟨hprice, rfl⟩, ⟨value, hvalue, rfl⟩, rfl⟩

/-- Valuing drafts makes the entries that they become. -/
theorem ends_valueAll {context : EntryContext} {drafts : Except Failure (List Draft)}
    {s t : Session} {entries : List Entry} (h : Ends (valueAll context drafts) s entries t) :
    ∃ made, drafts = .ok made ∧ Forall₂ (Becomes context.priceAt) made entries := by
  unfold Draft.valueAll at h
  simp only [ends_bind, ends_lift] at h
  obtain ⟨made, _, ⟨hmade, rfl⟩, h⟩ := h
  refine ⟨made, hmade, h.mapM.imp ?_⟩
  rintro draft entry ⟨s, t, hvalue⟩
  exact (ends_value.mp hvalue).1

end Draft
end NodeLedger
