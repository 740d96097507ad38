import Mathlib.Data.List.Sort

/-!
# Sorting by time

Entries and prices are sorted by their times, and those of one time stay in the order given.

Main results:

- Theorem `mergeSort_eq_foldr`: sorting puts the items in order one by one, each behind those that
  come before it and in front of all others.
- Theorem `filter_mergeSort`: some of the items are sorted the way they are among all.
- Theorem `append_of_sorted`: what is sorted falls into what comes before a time and the rest.
- Theorem `mergeSort_flatten`: blocks of items that have one time each are sorted as wholes.
- Theorem `takeWhile_eq_filter`: a search that stops at the first item behind a time misses none.
-/

namespace NodeLedger
namespace Order

variable {α : Type} (key : α → Int)

/-- Whether an item comes before another one or with it. -/
def keyLE (a b : α) : Bool :=
  decide (key a ≤ key b)

theorem keyLE_trans (a b c : α) (hab : keyLE key a b) (hbc : keyLE key b c) : keyLE key a c := by
  simp only [keyLE, decide_eq_true_eq] at *
  omega

theorem keyLE_total (a b : α) : keyLE key a b || keyLE key b a := by
  simp only [keyLE, Bool.or_eq_true, decide_eq_true_eq]
  omega

/-- What has been sorted is in order. -/
theorem pairwise_mergeSort (items : List α) :
    (items.mergeSort (keyLE key)).Pairwise fun a b => key a ≤ key b := by
  have hsorted := List.pairwise_mergeSort (keyLE_trans key) (keyLE_total key) items
  exact hsorted.imp fun h => of_decide_eq_true h

/-- What has been sorted begins with a least item. -/
theorem head_le_of_mergeSort {items : List α} {a b : α}
    (h : (items.mergeSort (keyLE key)).head? = some a) (hb : b ∈ items) : key a ≤ key b := by
  obtain ⟨rest, hrest⟩ := List.head?_eq_some_iff.mp h
  have hsorted := pairwise_mergeSort key items
  have hmem : b ∈ items.mergeSort (keyLE key) := List.mem_mergeSort.mpr hb
  rw [hrest] at hsorted hmem
  rcases List.mem_cons.mp hmem with rfl | hmem
  · exact Int.le_refl _
  · exact (List.pairwise_cons.mp hsorted).1 b hmem

/-- What has been sorted ends with a greatest item. -/
theorem le_getLast_of_mergeSort {items : List α} {a b : α}
    (h : (items.mergeSort (keyLE key)).getLast? = some a) (hb : b ∈ items) : key b ≤ key a := by
  obtain ⟨init, hinit⟩ := List.getLast?_eq_some_iff.mp h
  have hsorted := pairwise_mergeSort key items
  have hmem : b ∈ items.mergeSort (keyLE key) := List.mem_mergeSort.mpr hb
  rw [hinit] at hsorted hmem
  rcases List.mem_append.mp hmem with hmem | hmem
  · exact (List.pairwise_append.mp hsorted).2.2 b hmem a List.mem_cons_self
  · rw [List.mem_singleton.mp hmem]

/-- Put an item behind those that come before it, and in front of all others. -/
def insertInOrder (a : α) (sorted : List α) : List α :=
  sorted.filter (fun b => decide (key b < key a)) ++
    a :: sorted.filter (fun b => decide (key a ≤ key b))

/-- The first item is put in order among the others. -/
theorem mergeSort_cons_eq (a : α) (items : List α) :
    (a :: items).mergeSort (keyLE key) = insertInOrder key a (items.mergeSort (keyLE key)) := by
  obtain ⟨before, after, hcons, hrest, hbefore⟩ :=
    List.mergeSort_cons (keyLE_trans key) (keyLE_total key) a items
  have hsorted := pairwise_mergeSort key (a :: items)
  rw [hcons, List.pairwise_append, List.pairwise_cons] at hsorted
  have hlt : ∀ b ∈ before, key b < key a := by
    intro b hb
    simpa [keyLE] using hbefore b hb
  have hle : ∀ b ∈ after, key a ≤ key b := hsorted.2.1.1
  have hkept : before.filter (fun b => decide (key b < key a)) = before := by
    simpa [List.filter_eq_self] using hlt
  have hnone : after.filter (fun b => decide (key b < key a)) = [] := by
    simpa [List.filter_eq_nil_iff] using hle
  have hnone' : before.filter (fun b => decide (key a ≤ key b)) = [] := by
    simpa [List.filter_eq_nil_iff] using hlt
  have hkept' : after.filter (fun b => decide (key a ≤ key b)) = after := by
    simpa [List.filter_eq_self] using hle
  rw [hcons, hrest, insertInOrder, List.filter_append, List.filter_append, hkept, hnone, hnone',
    hkept', List.append_nil, List.nil_append]

/-- Sorting puts the items in order one by one, the last one first. -/
theorem mergeSort_eq_foldr (items : List α) :
    items.mergeSort (keyLE key) = items.foldr (insertInOrder key) [] := by
  induction items with
  | nil => simp
  | cons a rest ih => rw [mergeSort_cons_eq, ih, List.foldr_cons]

/-- What is in order falls into what comes before a time and the rest. -/
theorem append_of_sorted (time : Int) {items : List α}
    (hsorted : items.Pairwise fun a b => key a ≤ key b) :
    items.filter (fun b => decide (key b < time)) ++
      items.filter (fun b => decide (time ≤ key b)) = items := by
  induction hsorted with
  | nil => rfl
  | @cons a rest hle hrest ih =>
    by_cases ha : key a < time
    · have hnot : ¬ time ≤ key a := by omega
      simp [ha, hnot, ih]
    · have hnone : rest.filter (fun b => decide (key b < time)) = [] := by
        rw [List.filter_eq_nil_iff]
        intro b hb
        have := hle b hb
        simp only [decide_eq_true_eq]
        omega
      have hle' : time ≤ key a := by omega
      rw [hnone, List.nil_append] at ih
      simp [ha, hle', hnone, ih]

/-- Some of the items are sorted the way they are among all. -/
theorem filter_mergeSort (keep : α → Bool) (items : List α) :
    (items.mergeSort (keyLE key)).filter keep = (items.filter keep).mergeSort (keyLE key) := by
  induction items with
  | nil => simp
  | cons a rest ih =>
    rw [mergeSort_cons_eq, insertInOrder, List.filter_append, List.filter_cons,
      List.filter_cons]
    cases keep a with
    | false =>
      -- What is left out parts the rest in two, which come together again.
      rw [if_neg Bool.false_ne_true, if_neg Bool.false_ne_true, ← List.filter_append,
        append_of_sorted key (key a) (pairwise_mergeSort key rest), ih]
    | true =>
      rw [if_pos rfl, if_pos rfl, mergeSort_cons_eq, insertInOrder, ← ih]
      simp only [List.filter_filter, Bool.and_comm]

/-- What has one time is in the order in which it was given. -/
theorem filter_mergeSort_eq (time : Int) (items : List α) :
    (items.mergeSort (keyLE key)).filter (fun a => decide (key a = time)) =
      items.filter fun a => decide (key a = time) := by
  rw [filter_mergeSort]
  apply List.mergeSort_of_pairwise
  apply List.pairwise_of_forall_mem_list
  intro a ha b hb
  have hatime := (List.mem_filter.mp ha).2
  have hbtime := (List.mem_filter.mp hb).2
  simp only [decide_eq_true_eq] at hatime hbtime
  simp only [keyLE, decide_eq_true_eq]
  omega

/-- Items that are related one by one and have the same times are sorted alike. -/
theorem forall₂_mergeSort {R : α → α → Prop} (hR : ∀ a b, R a b → key a = key b)
    {as bs : List α} (h : List.Forall₂ R as bs) :
    List.Forall₂ R (as.mergeSort (keyLE key)) (bs.mergeSort (keyLE key)) := by
  induction h with
  | nil => simp
  | @cons a b as bs hab _ ih =>
    have hkey := hR a b hab
    rw [mergeSort_cons_eq, mergeSort_cons_eq, insertInOrder, insertInOrder, hkey]
    have hbefore : ∀ c d, R c d → (decide (key c < key b) ↔ decide (key d < key b)) := by
      intro c d hcd
      rw [hR c d hcd]
    have hafter : ∀ c d, R c d → (decide (key b ≤ key c) ↔ decide (key b ≤ key d)) := by
      intro c d hcd
      rw [hR c d hcd]
    refine List.rel_append (List.rel_filter hbefore ih) (.cons hab (List.rel_filter hafter ih))

/-- What stands in front of the first item behind a time is all that is not behind it. -/
theorem takeWhile_eq_filter (time : Int) {items : List α}
    (hsorted : items.Pairwise fun a b => key a ≤ key b) :
    items.takeWhile (fun a => decide (key a ≤ time)) =
      items.filter fun a => decide (key a ≤ time) := by
  induction hsorted with
  | nil => rfl
  | @cons a rest hle hrest ih =>
    by_cases ha : key a ≤ time
    · simp [ha, ih]
    · have hnone : rest.filter (fun b => decide (key b ≤ time)) = [] := by
        rw [List.filter_eq_nil_iff]
        intro b hb
        have := hle b hb
        simp only [decide_eq_true_eq]
        omega
      simp [ha, hnone]

/-! ## Blocks -/

/-- What has one time is put in its place as a whole. -/
theorem mergeSort_append_of_eq {time : Int} {block : List α} (hblock : ∀ a ∈ block, key a = time)
    (items : List α) :
    (block ++ items).mergeSort (keyLE key) =
      (items.mergeSort (keyLE key)).filter (fun b => decide (key b < time)) ++
        (block ++ (items.mergeSort (keyLE key)).filter (fun b => decide (time ≤ key b))) := by
  induction block with
  | nil => exact (append_of_sorted key time (pairwise_mergeSort key items)).symm
  | cons a block ih =>
    obtain ⟨rfl, hrest⟩ := List.forall_mem_cons.mp hblock
    -- The first item comes in front of the others of its time, and behind all that is earlier.
    have hbefore : block.filter (fun b => decide (key b < key a)) = [] := by
      rw [List.filter_eq_nil_iff]
      intro b hb
      simp [hrest b hb]
    have hafter : block.filter (fun b => decide (key a ≤ key b)) = block := by
      rw [List.filter_eq_self]
      intro b hb
      simp [hrest b hb]
    have hlt (b : α) : (decide (key b < key a) && decide (key a ≤ key b)) = false := by
      by_cases h : key b < key a <;> simp [h]
    have hle (b : α) : (decide (key a ≤ key b) && decide (key b < key a)) = false := by
      rw [Bool.and_comm, hlt]
    rw [List.cons_append, mergeSort_cons_eq, ih hrest, insertInOrder]
    simp [List.filter_append, List.filter_filter, hbefore, hafter, hlt, hle]

/-- Filtering by the times of blocks keeps or leaves out each of them as a whole. -/
theorem filter_flatten_of_eq {blockKey : List α → Int} (keep : Int → Bool)
    {blocks : List (List α)} (hblocks : ∀ block ∈ blocks, ∀ a ∈ block, key a = blockKey block) :
    blocks.flatten.filter (fun a => keep (key a)) =
      (blocks.filter fun block => keep (blockKey block)).flatten := by
  induction blocks with
  | nil => rfl
  | cons block blocks ih =>
    obtain ⟨hblock, hrest⟩ := List.forall_mem_cons.mp hblocks
    have hsame : block.filter (fun a => keep (key a)) =
        block.filter fun _ => keep (blockKey block) := by
      apply List.filter_congr
      intro a ha
      rw [hblock a ha]
    rw [List.flatten_cons, List.filter_append, ih hrest, hsame, List.filter_cons]
    cases keep (blockKey block) <;> simp

/-- Blocks of items that have one time each are sorted as wholes. -/
theorem mergeSort_flatten {blockKey : List α → Int} {blocks : List (List α)}
    (hblocks : ∀ block ∈ blocks, ∀ a ∈ block, key a = blockKey block) :
    blocks.flatten.mergeSort (keyLE key) = (blocks.mergeSort (keyLE blockKey)).flatten := by
  induction blocks with
  | nil => simp
  | cons block blocks ih =>
    obtain ⟨hblock, hrest⟩ := List.forall_mem_cons.mp hblocks
    have hsorted : ∀ other ∈ blocks.mergeSort (keyLE blockKey), ∀ a ∈ other,
        key a = blockKey other := by
      intro other hother
      exact hrest other (List.mem_mergeSort.mp hother)
    rw [List.flatten_cons, mergeSort_append_of_eq key hblock, ih hrest, mergeSort_cons_eq,
      insertInOrder, List.flatten_append, List.flatten_cons,
      filter_flatten_of_eq key (fun n => decide (n < blockKey block)) hsorted,
      filter_flatten_of_eq key (fun n => decide (blockKey block ≤ n)) hsorted]

end Order
end NodeLedger
