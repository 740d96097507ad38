import Mathlib.Algebra.Ring.Int.Defs
import Mathlib.Data.List.Perm.Basic

/-!
# Related lists

What a report makes of a list stands in the same order as what it is made of.  Two such lists are
related item by item, and what is found in one of them at some place has a counterpart in the other.

Main results:

- Theorem `exists_of_mem_right`: every item on the right has a counterpart on the left.
- Theorem `exists_getElem?_left`: in the same place.
- Theorem `exists_getLast_left`: so has the last one.
- Theorem `map_eq_map_of_forall₂`: what is made of counterparts in the same way is the same.
- Theorem `forall₂_append_left`: lists that are put one behind the other are related one by one.
- Theorem `forall₂_trans`: two relations one after the other.
- Theorem `forall₂_zip_right`: the counterparts of a list in two other ones, taken together.
- Theorem `exists_forall₂_of_perm`: the counterparts of a list in another order.
- Theorem `nodup_map_of_forall₂`: counterparts of different items are told apart.
- Theorem `sum_map_filter`: sums over some of the items are sums over all of them.
-/

namespace NodeLedger

open List

variable {α β γ : Type} {R : α → β → Prop} {as : List α} {bs : List β}

/-- What stands in the second of two related lists is related to something in the first. -/
theorem exists_of_mem_right (h : Forall₂ R as bs) {b : β} (hb : b ∈ bs) : ∃ a ∈ as, R a b := by
  induction h with
  | nil => exact absurd hb List.not_mem_nil
  | @cons a c _ _ hac _ ih =>
    rcases List.mem_cons.mp hb with rfl | hb
    · exact ⟨a, List.mem_cons_self, hac⟩
    · obtain ⟨a', ha', hR⟩ := ih hb
      exact ⟨a', List.mem_cons_of_mem a ha', hR⟩

/-- What stands in the first of two related lists is related to something in the second. -/
theorem exists_of_mem_left (h : Forall₂ R as bs) {a : α} (ha : a ∈ as) : ∃ b ∈ bs, R a b :=
  exists_of_mem_right h.flip ha

/-- What stands in some place of the first of two related lists is related to what stands in that
place of the second. -/
theorem exists_getElem?_left (h : Forall₂ R as bs) {i : Nat} {a : α} (ha : as[i]? = some a) :
    ∃ b, bs[i]? = some b ∧ R a b := by
  induction h generalizing i with
  | nil => cases ha
  | @cons c b _ _ hcb _ ih =>
    cases i with
    | zero =>
      obtain rfl : c = a := by simpa using ha
      exact ⟨b, by simp, hcb⟩
    | succ i =>
      rw [List.getElem?_cons_succ] at ha ⊢
      exact ih ha

/-- Functions that agree on related items agree on related lists. -/
theorem map_eq_map_of_forall₂ {f : α → γ} {g : β → γ} (h : Forall₂ R as bs)
    (hfg : ∀ a ∈ as, ∀ b, R a b → f a = g b) : as.map f = bs.map g := by
  induction h with
  | nil => rfl
  | @cons a b as bs hab _ ih =>
    have hrest : as.map f = bs.map g := by
      apply ih
      intro c hc
      exact hfg c (List.mem_cons_of_mem a hc)
    rw [List.map_cons, List.map_cons, hfg a List.mem_cons_self b hab, hrest]

/-- If each item of a list has a relative, the list has one. -/
theorem exists_forall₂ (h : ∀ a ∈ as, ∃ b, R a b) : ∃ bs, Forall₂ R as bs := by
  induction as with
  | nil => exact ⟨[], .nil⟩
  | cons a as ih =>
    rw [List.forall_mem_cons] at h
    obtain ⟨b, hb⟩ := h.1
    obtain ⟨bs, hbs⟩ := ih h.2
    exact ⟨b :: bs, .cons hb hbs⟩

/-- The last items of related lists are related. -/
theorem exists_getLast_left (h : Forall₂ R as bs) {b : β} (hb : bs.getLast? = some b) :
    ∃ a, as.getLast? = some a ∧ R a b := by
  obtain ⟨init, rfl⟩ := List.getLast?_eq_some_iff.mp hb
  have hreverse : Forall₂ R as.reverse (b :: init.reverse) := by
    rw [← List.reverse_concat]
    exact List.forall₂_reverse_iff.mpr h
  obtain ⟨a, rest, hR, -, hcons⟩ := List.forall₂_cons_right_iff.mp hreverse
  refine ⟨a, ?_, hR⟩
  rw [← List.head?_reverse, hcons, List.head?_cons]

/-- What is related to two lists, one behind the other, falls into two as well. -/
theorem forall₂_append_left {as' : List α} (h : Forall₂ R (as ++ as') bs) :
    ∃ front back, bs = front ++ back ∧ Forall₂ R as front ∧ Forall₂ R as' back := by
  induction as generalizing bs with
  | nil => exact ⟨[], bs, rfl, .nil, h⟩
  | cons a as ih =>
    obtain ⟨b, rest, hab, hrest, rfl⟩ := List.forall₂_cons_left_iff.mp h
    obtain ⟨front, back, rfl, hfront, hback⟩ := ih hrest
    exact ⟨b :: front, back, rfl, .cons hab hfront, hback⟩

/-- Two relations between lists, one after the other. -/
theorem forall₂_trans {S : β → γ → Prop} {T : α → γ → Prop} {cs : List γ} (hR : Forall₂ R as bs)
    (hS : Forall₂ S bs cs) (hT : ∀ a b c, R a b → S b c → T a c) : Forall₂ T as cs := by
  induction hR generalizing cs with
  | nil =>
    cases hS
    exact .nil
  | cons hab _ ih =>
    cases hS with
    | cons hbc hrest => exact .cons (hT _ _ _ hab hbc) (ih hrest)

/-- What is related to two lists is related to their items taken together. -/
theorem forall₂_zip_right {S : α → γ → Prop} {cs : List γ} (hR : Forall₂ R as bs)
    (hS : Forall₂ S as cs) : Forall₂ (fun a both => R a both.1 ∧ S a both.2) as (bs.zip cs) := by
  induction hR generalizing cs with
  | nil =>
    cases hS
    exact .nil
  | cons hab _ ih =>
    cases hS with
    | cons hac hrest => exact .cons ⟨hab, hac⟩ (ih hrest)

/-- If one of two related lists is put in another order, so can the other one be. -/
theorem exists_forall₂_of_perm {as' : List α} (h : Forall₂ R as bs) (hperm : as ~ as') :
    ∃ bs', Forall₂ R as' bs' ∧ bs ~ bs' := by
  obtain ⟨bs', hrelated, hperm'⟩ := List.perm_comp_forall₂ hperm.symm h
  exact ⟨bs', hrelated, hperm'.symm⟩

/-- What is told of the items on the right is all different if it tells their counterparts, which
are. -/
theorem nodup_map_of_forall₂ {f : β → γ} (h : Forall₂ R as bs) (hnodup : as.Nodup)
    (hf : ∀ a b a' b', R a b → R a' b' → f b = f b' → a = a') : (bs.map f).Nodup := by
  induction h with
  | nil => exact List.nodup_nil
  | @cons a b as bs hab hrest ih =>
    obtain ⟨hnew, hnodup⟩ := List.nodup_cons.mp hnodup
    refine List.nodup_cons.mpr ⟨?_, ih hnodup⟩
    intro hmem
    obtain ⟨b', hb', hsame⟩ := List.mem_map.mp hmem
    obtain ⟨a', ha', hab'⟩ := exists_of_mem_right hrest hb'
    rw [hf a b a' b' hab hab' hsame.symm] at hnew
    exact hnew ha'

/-! ## Sums over some of the items -/

/-- The sum over some of the items of a list, as one over all of them. -/
theorem sum_map_filter (keep : α → Bool) (f : α → Int) (items : List α) :
    ((items.filter keep).map f).sum = (items.map fun a => if keep a then f a else 0).sum := by
  induction items with
  | nil => rfl
  | cons a rest ih =>
    by_cases hkeep : keep a = true
    · rw [List.filter_cons_of_pos hkeep, List.map_cons, List.map_cons, List.sum_cons,
        List.sum_cons, ih, if_pos hkeep]
    · rw [List.filter_cons_of_neg hkeep, List.map_cons, List.sum_cons, ih, if_neg hkeep,
        Int.zero_add]

/-- The sum over what is there, as one over all that may be. -/
theorem sum_map_filterMap_id (f : α → Int) (items : List (Option α)) :
    ((items.filterMap id).map f).sum = (items.map fun a => (a.map f).getD 0).sum := by
  induction items with
  | nil => rfl
  | cons a rest ih =>
    rw [List.map_cons, List.sum_cons, ← ih]
    cases a with
    | none => simp
    | some a => simp

end NodeLedger
