import Mathlib.Algebra.BigOperators.Group.List.Basic
import Mathlib.Algebra.Ring.Int.Defs
import Mathlib.Tactic.Tauto
import NodeLedger.Table

/-!
# Keys of tables

A table has one value for a key, so that its keys are all different; changing the value under a key
keeps them so.

Main results:

- Theorems `Table.mem_keys_alter` and `Table.nodup_keys_alter`: a change adds no key but that of the
  value changed, and none twice.
- Theorem `Table.get?_eq_some_of_mem`: what stands in a table is found under its key.
- Theorem `Table.mem_of_mem_alter`: what stands in a table after a change.
- Theorem `Table.flatten_alter_perm`: an item that is added to one of the lists in a table is added
  to all of them together.
- Theorem `Table.mem_of_mem_ofList`: what stands in a table was put into it.
- Theorem `Table.ofList_eq_self`: a table of values under different keys has all of them.
- Theorem `Table.sum_get?`: what is found under different keys adds up to what stands under them.
- Definition `Table.Related`: tables with the same keys and related values.  Theorems
  `Table.Related.get?` and `Table.Related.alter`: what is found in them is related, and they stay
  so.
-/

namespace NodeLedger
namespace Table

variable {κ α : Type}

/-- The keys of a table in the order in which they came. -/
def keys (table : Table κ α) : List κ :=
  table.map (·.1)

@[simp] theorem keys_nil : keys ([] : Table κ α) = [] :=
  rfl

@[simp] theorem keys_cons (entry : κ × α) (rest : Table κ α) :
    keys (entry :: rest) = entry.1 :: keys rest :=
  rfl

variable [DecidableEq κ]

/-- A change under a key adds no other key. -/
theorem mem_keys_alter {table : Table κ α} {key other : κ} {change : Option α → α} :
    other ∈ keys (table.alter key change) ↔ other ∈ keys table ∨ other = key := by
  induction table with
  | nil => simp [alter, keys]
  | cons entry rest ih =>
    by_cases hkey : entry.1 = key
    · simp only [alter, hkey, BEq.rfl, if_true, keys_cons, List.mem_cons]
      tauto
    · simp only [alter, beq_eq_false_iff_ne.mpr hkey, Bool.false_eq_true, if_false, keys_cons,
        List.mem_cons, ih]
      tauto

/-- The keys do not depend on what a change under a key makes. -/
theorem keys_alter_congr (table : Table κ α) (key : κ) (change change' : Option α → α) :
    (table.alter key change).keys = (table.alter key change').keys := by
  induction table with
  | nil => rfl
  | cons entry rest ih =>
    by_cases hkey : entry.1 = key
    · simp only [alter, hkey, BEq.rfl, if_true, keys_cons]
    · simp only [alter, beq_eq_false_iff_ne.mpr hkey, Bool.false_eq_true, if_false, keys_cons, ih]

/-- A change under a key leaves the keys all different. -/
theorem nodup_keys_alter {table : Table κ α} (h : table.keys.Nodup) (key : κ)
    (change : Option α → α) : (table.alter key change).keys.Nodup := by
  induction table with
  | nil => simp [alter, keys]
  | cons entry rest ih =>
    rw [keys_cons, List.nodup_cons] at h
    obtain ⟨hnotMem, hrest⟩ := h
    by_cases hkey : entry.1 = key
    · simp only [alter, hkey, BEq.rfl, if_true, keys_cons, List.nodup_cons]
      rw [← hkey]
      exact ⟨hnotMem, hrest⟩
    · simp only [alter, beq_eq_false_iff_ne.mpr hkey, Bool.false_eq_true, if_false, keys_cons,
        List.nodup_cons]
      refine ⟨?_, ih hrest⟩
      intro hmem
      rcases mem_keys_alter.mp hmem with hmem | hmem
      · exact hnotMem hmem
      · exact hkey hmem

/-- A change under a new key adds to the end. -/
theorem alter_eq_append {table : Table κ α} {key : κ} (h : key ∉ table.keys)
    (change : Option α → α) : table.alter key change = table ++ [(key, change none)] := by
  induction table with
  | nil => rfl
  | cons entry rest ih =>
    rw [keys_cons, List.mem_cons, not_or] at h
    obtain ⟨hne, hrest⟩ := h
    simp only [alter, beq_eq_false_iff_ne.mpr (Ne.symm hne), Bool.false_eq_true, if_false,
      ih hrest, List.cons_append]

/-- What stands in a table is found under its key. -/
theorem get?_eq_some_of_mem {table : Table κ α} (h : table.keys.Nodup) {key : κ} {value : α}
    (hmem : (key, value) ∈ table) : table.get? key = some value := by
  induction table with
  | nil => exact absurd hmem List.not_mem_nil
  | cons entry rest ih =>
    rw [keys_cons, List.nodup_cons] at h
    obtain ⟨hnotMem, hrest⟩ := h
    rcases List.mem_cons.mp hmem with rfl | hmem
    · simp [get?]
    · have hne : entry.1 ≠ key := by
        intro hkey
        apply hnotMem
        rw [hkey]
        exact List.mem_map_of_mem hmem
      have htail := ih hrest hmem
      unfold get? at htail ⊢
      rw [List.find?_cons_of_neg (by simpa using hne), htail]

/-- What is found in a table is found under one of its keys. -/
theorem isSome_get?_iff {table : Table κ α} {key : κ} :
    (table.get? key).isSome = true ↔ key ∈ table.keys := by
  unfold get? keys
  rw [Option.isSome_map, List.find?_isSome, List.mem_map]
  simp only [beq_iff_eq]

/-- What is found in a table stands in it. -/
theorem mem_of_get?_eq_some {table : Table κ α} {key : κ} {value : α}
    (h : table.get? key = some value) : (key, value) ∈ table := by
  unfold get? at h
  obtain ⟨entry, hfind, rfl⟩ := Option.map_eq_some_iff.mp h
  have hkey : entry.1 = key := by simpa using List.find?_some hfind
  rw [← hkey]
  exact List.mem_of_find?_eq_some hfind

/-- What stands in a table after a change under a key stood there before, or is what was found under
the key and changed. -/
theorem mem_of_mem_alter {table : Table κ α} {key : κ} {change : Option α → α} {entry : κ × α}
    (h : entry ∈ table.alter key change) :
    entry ∈ table ∨ entry = (key, change (table.get? key)) := by
  induction table with
  | nil => exact .inr (List.mem_singleton.mp h)
  | cons first rest ih =>
    by_cases hkey : first.1 = key
    · simp only [alter, hkey, BEq.rfl, if_true, List.mem_cons] at h
      rcases h with rfl | h
      · right
        simp [get?, hkey]
      · exact .inl (List.mem_cons_of_mem _ h)
    · simp only [alter, beq_eq_false_iff_ne.mpr hkey, Bool.false_eq_true, if_false,
        List.mem_cons] at h
      rcases h with rfl | h
      · exact .inl List.mem_cons_self
      · rcases ih h with hrest | hrest
        · exact .inl (List.mem_cons_of_mem _ hrest)
        · right
          rw [hrest]
          simp [get?, hkey]

/-- An item that is added at the end of the list under a key is added to all lists together. -/
theorem flatten_alter_perm {β : Type} {table : Table κ α} {key : κ} {change : Option α → α}
    {itemsOf : α → List β} {item : β} (hnew : itemsOf (change none) = [item])
    (hold : ∀ value, itemsOf (change (some value)) = itemsOf value ++ [item]) :
    ((table.alter key change).map fun entry => itemsOf entry.2).flatten.Perm
      ((table.map fun entry => itemsOf entry.2).flatten ++ [item]) := by
  induction table with
  | nil => simp [alter, hnew]
  | cons entry rest ih =>
    by_cases hkey : entry.1 = key
    · simp only [alter, hkey, BEq.rfl, if_true, List.map_cons, List.flatten_cons, hold,
        List.append_assoc]
      exact (List.perm_append_comm).append_left _
    · simp only [alter, beq_eq_false_iff_ne.mpr hkey, Bool.false_eq_true, if_false, List.map_cons,
        List.flatten_cons, List.append_assoc]
      exact ih.append_left _

/-- What is found in a table stood among the keys and values of which it was made. -/
theorem mem_of_mem_ofList {entries : List (κ × α)} {entry : κ × α} (h : entry ∈ ofList entries) :
    entry ∈ entries := by
  have hfrom : ∀ (rest : List (κ × α)) (table : Table κ α),
      entry ∈ rest.foldl (fun table entry => table.insert entry.1 entry.2) table →
      entry ∈ table ∨ entry ∈ rest := by
    intro rest
    induction rest with
    | nil => exact fun table h => .inl h
    | cons first rest ih =>
      intro table h
      rcases ih _ h with h | h
      · rcases mem_of_mem_alter h with h | rfl
        · exact .inl h
        · exact .inr List.mem_cons_self
      · exact .inr (List.mem_cons_of_mem first h)
  exact (hfrom entries [] h).resolve_left List.not_mem_nil

/-- A table of values under different keys has all of them. -/
theorem ofList_eq_self {entries : List (κ × α)} (h : (keys entries).Nodup) :
    ofList entries = entries := by
  have hfrom : ∀ (rest : List (κ × α)) (table : Table κ α), (keys (table ++ rest)).Nodup →
      rest.foldl (fun table entry => table.insert entry.1 entry.2) table = table ++ rest := by
    intro rest
    induction rest with
    | nil =>
      intro table _
      exact (List.append_nil table).symm
    | cons entry rest ih =>
      intro table hnodup
      have hnew : entry.1 ∉ table.keys := by
        unfold keys at hnodup
        rw [List.map_append, List.nodup_append] at hnodup
        intro hmem
        exact hnodup.2.2 _ hmem _ List.mem_cons_self rfl
      rw [List.append_cons] at hnodup
      rw [List.foldl_cons, insert, alter_eq_append hnew, ih _ hnodup, ← List.append_cons]
  exact hfrom entries [] h

/-- What is found under different keys adds up to what stands under them. -/
theorem sum_get? {table : Table κ Int} (htable : table.keys.Nodup) {points : List κ}
    (hpoints : points.Nodup) :
    (points.map fun point => (table.get? point).getD 0).sum =
      ((table.filter fun entry => decide (entry.1 ∈ points)).map (·.2)).sum := by
  induction table with
  | nil => simp [get?]
  | cons entry rest ih =>
    rw [keys_cons, List.nodup_cons] at htable
    obtain ⟨hnew, hrest⟩ := htable
    have hsplit : ∀ point, (get? (entry :: rest) point).getD 0 =
        (if point = entry.1 then entry.2 else 0) + (get? rest point).getD 0 := by
      intro point
      by_cases hpoint : point = entry.1
      · have hnone : get? rest point = none := by
          rw [← Option.not_isSome_iff_eq_none, isSome_get?_iff, hpoint]
          exact hnew
        rw [hnone, if_pos hpoint, hpoint]
        simp [get?]
      · rw [if_neg hpoint, zero_add]
        unfold get?
        rw [List.find?_cons_of_neg (by simpa using Ne.symm hpoint)]
    have hentry : (points.map fun point => if point = entry.1 then entry.2 else 0).sum =
        if entry.1 ∈ points then entry.2 else 0 := by
      rw [List.sum_map_ite_eq points (fun _ => entry.2) (fun _ => 0), hpoints.count]
      split <;> simp
    rw [List.map_congr_left fun point _ => hsplit point, List.sum_map_add, hentry, ih hrest]
    by_cases hmem : entry.1 ∈ points
    · rw [List.filter_cons_of_pos (by simpa using hmem), if_pos hmem, List.map_cons,
        List.sum_cons]
    · rw [List.filter_cons_of_neg (by simpa using hmem), if_neg hmem, zero_add]

/-! ## Tables with related values -/

variable {β : Type} {R : κ → α → β → Prop} {table : Table κ α} {other : Table κ β}

/-- Two tables have the same keys in one order, and related values under them. -/
def Related (R : κ → α → β → Prop) (table : Table κ α) (other : Table κ β) : Prop :=
  List.Forall₂ (fun entry entry' => entry.1 = entry'.1 ∧ R entry.1 entry.2 entry'.2) table other

/-- Under a key there are related values in both tables, or none in either. -/
theorem Related.get? (h : Related R table other) (key : κ) :
    Option.Rel (R key) (table.get? key) (other.get? key) := by
  induction h with
  | nil => exact .none
  | cons hentry _ ih =>
    obtain ⟨hkey, hvalue⟩ := hentry
    unfold Table.get? at ih ⊢
    rw [List.find?_cons, List.find?_cons, ← hkey]
    split
    case h_1 hsame => exact .some (beq_iff_eq.mp hsame ▸ hvalue)
    case h_2 => exact ih

theorem Related.isSome_get?_eq (h : Related R table other) (key : κ) :
    (table.get? key).isSome = (other.get? key).isSome := by
  have hvalues := h.get? key
  generalize table.get? key = value, other.get? key = value' at hvalues
  cases hvalues <;> rfl

/-- Changes that give related values keep the tables related. -/
theorem Related.alter (h : Related R table other) {key : κ} {change : Option α → α}
    {change' : Option β → β}
    (hchange : ∀ a b, Option.Rel (R key) a b → R key (change a) (change' b)) :
    Related R (table.alter key change) (other.alter key change') := by
  induction h with
  | nil => exact .cons ⟨rfl, hchange _ _ .none⟩ .nil
  | @cons entry entry' rest rest' hentry hrest ih =>
    obtain ⟨key₁, value⟩ := entry
    obtain ⟨key₂, value'⟩ := entry'
    obtain ⟨rfl, hvalue⟩ := hentry
    by_cases hkey : key₁ = key
    · subst hkey
      simp only [Table.alter, BEq.rfl, if_true]
      exact .cons ⟨rfl, hchange _ _ (.some hvalue)⟩ hrest
    · simp only [Table.alter, beq_eq_false_iff_ne.mpr hkey, Bool.false_eq_true, if_false]
      exact .cons ⟨rfl, hvalue⟩ ih

end Table
end NodeLedger
