import Mathlib.Algebra.GroupWithZero.Nat
import NodeLedger.Proofs.Node.Balance

/-!
# Payments and the groups of their parts

The parts of different payments may be listed in any order among each other.  There is one payment
for each hash and group, in the order in which these are first listed, and it is made of the parts
of that hash and group in the order in which they are listed.  No part belongs to two payments, so
that payments have different numbers if parts have different ids.

Main results:

- Theorem `Payment.keys_of_grouped`: the groups stand in the order in which they begin.
- Structure `Payment.Grouped` and theorem `Node.exists_grouped_of_ends`: the payments of the node
  are grouped.
- Theorem `Payment.Grouped.sum_length`: the payments have as many parts as are listed.
- Theorem `Payment.Grouped.nodup_sequenceNumber`: payments have different numbers.
-/

namespace NodeLedger

open List NodeLedger.Action

/-! ## The order of groups -/

/-- An item behind others is kept if it is not among them. -/
theorem eraseDups_append_singleton {α : Type} [BEq α] [LawfulBEq α] (as : List α) (a : α) :
    (as ++ [a]).eraseDups = as.eraseDups ++ if as.elem a then [] else [a] := by
  rw [List.eraseDups_append]
  congr 1
  unfold List.removeAll
  rw [List.filter_singleton]
  cases as.elem a <;> rfl

/-- A change under a key that a table has leaves the keys as they are. -/
theorem Table.keys_alter_of_mem {κ α : Type} [DecidableEq κ] {table : Table κ α} {key : κ}
    (h : key ∈ table.keys) (change : Option α → α) :
    (table.alter key change).keys = table.keys := by
  induction table with
  | nil => exact absurd h List.not_mem_nil
  | cons entry rest ih =>
    by_cases hkey : entry.1 = key
    · simp only [alter, hkey, BEq.rfl, if_true, keys_cons]
    · have hrest : key ∈ keys rest := (List.mem_cons.mp h).resolve_left (Ne.symm hkey)
      simp only [alter, beq_eq_false_iff_ne.mpr hkey, Bool.false_eq_true, if_false, keys_cons,
        ih hrest]

namespace Payment

variable {listed parts : List Value} {payment : Payment} {payments : List Payment}
  {keys : List GroupKey}

/-- The groups stand in the order in which their first parts are listed. -/
theorem keys_of_grouped {groups : Table GroupKey PartGroup} (h : grouped listed = .ok groups) :
    groups.keys.map some = (listed.map groupOf).eraseDups := by
  refine holds_of_foldlM
    (fun done (groups : Table GroupKey PartGroup) =>
      groups.keys.map some = (done.map groupOf).eraseDups) ?_ rfl h
  intro done part before after hbefore hadd
  obtain ⟨key, hash, hkey, -, rfl⟩ := addPart_eq_ok hadd
  have hiff : key ∈ before.keys ↔ some key ∈ done.map groupOf := by
    rw [← List.mem_eraseDups (l := done.map groupOf), ← hbefore,
      List.mem_map_of_injective (Option.some_injective _)]
  rw [List.map_append, List.map_singleton, hkey, eraseDups_append_singleton]
  by_cases hmem : key ∈ before.keys
  · rw [Table.keys_alter_of_mem hmem, hbefore, List.elem_eq_true_of_mem (hiff.mp hmem), if_pos rfl,
      List.append_nil]
  · have hnew : (done.map groupOf).elem (some key) = false := by
      rw [Bool.eq_false_iff, ne_eq, List.elem_iff]
      exact mt hiff.mpr hmem
    rw [Table.alter_eq_append hmem, hnew, if_neg Bool.false_ne_true, ← hbefore]
    simp [Table.keys]

/-! ## Payments in groups -/

/-- There is one payment for each hash and group, in the order in which these are first listed, made
of the parts of that hash and group. -/
structure Grouped (listed : List Value) (keys : List GroupKey) (payments : List Payment) :
    Prop where
  keys_eq : keys.map some = (listed.map groupOf).eraseDups
  nodup : keys.Nodup
  made : Forall₂ (fun key payment => payment.paymentHash.key? = some key.hash ∧
    Gathers (partsOf listed (some key)) payment) keys payments
  sum_length : (payments.map (·.htlcs.length)).sum = listed.length

/-- The payments of an answer are grouped. -/
theorem exists_grouped_of_readAll {result : Value} (h : readAll result = .ok payments) :
    ∃ listed keys, Wallet.itemsOf result "payments" = .ok listed ∧
      Grouped listed keys payments := by
  unfold readAll at h
  obtain ⟨listed, hlisted, h⟩ := bind_eq_ok_iff.mp h
  obtain ⟨groups, hgroups, h⟩ := bind_eq_ok_iff.mp h
  have htogether := grouped_eq_ok hgroups
  have hread := mapM_eq_ok_iff.mp h
  have hentries : ∀ entry ∈ groups, entry.2.hash.key? = some entry.1.hash ∧
      entry.2.parts = partsOf listed (some entry.1) := by
    intro entry hentry
    refine ⟨key_of_grouped hgroups entry hentry, ?_⟩
    rw [← htogether.parts_eq entry.1, Table.get?_eq_some_of_mem htogether.nodup hentry]
    rfl
  refine ⟨listed, groups.keys, hlisted, keys_of_grouped hgroups, htogether.nodup, ?_, ?_⟩
  · refine forall₂_map_left_iff.mpr (((forall₂_and_left _ _).mpr ⟨hentries, hread⟩).imp ?_)
    rintro entry payment ⟨⟨hhash, hparts⟩, hmade⟩
    obtain ⟨hsame, hgathers⟩ := gathers_of_ofParts hmade
    rw [← hparts, hsame]
    exact ⟨hhash, hgathers⟩
  · have hlengths : (payments.map (·.htlcs.length)) =
        groups.map fun entry => entry.2.parts.length := by
      refine (map_eq_map_of_forall₂ hread ?_).symm
      intro entry _ payment hmade
      rw [(gathers_of_ofParts hmade).2.htlcs_eq, List.length_map]
    rw [hlengths, ← htogether.perm.length_eq, List.length_flatten, List.map_map]
    rfl

/-! ## Numbers of payments -/

/-- The least of some integers is one of them. -/
theorem least_mem {ids : List Int} (h : ids ≠ []) : least ids ∈ ids := by
  cases ids with
  | nil => exact absurd rfl h
  | cons id rest =>
    have hfrom : ∀ start, rest.foldl min start ∈ start :: rest := by
      clear h
      induction rest with
      | nil => exact fun start => List.mem_cons_self
      | cons other rest ih =>
        intro start
        rcases List.mem_cons.mp (ih (min start other)) with hleast | hrest
        · have hchoice : min start other = start ∨ min start other = other := by omega
          rcases hchoice with hmin | hmin
          · rw [List.foldl_cons, hleast, hmin]
            exact List.mem_cons_self
          · rw [List.foldl_cons, hleast, hmin]
            exact List.mem_cons_of_mem _ List.mem_cons_self
        · exact List.mem_cons_of_mem _ (List.mem_cons_of_mem _ hrest)
    exact hfrom id

namespace Grouped

variable (h : Grouped listed keys payments)

include h

/-- Every payment has a part. -/
theorem parts_ne_nil {key : GroupKey} (hkey : key ∈ keys) : partsOf listed (some key) ≠ [] := by
  have hmem : some key ∈ listed.map groupOf := by
    rw [← List.mem_eraseDups, ← h.keys_eq]
    exact List.mem_map_of_mem hkey
  obtain ⟨part, hpart, hgroup⟩ := List.mem_map.mp hmem
  exact List.ne_nil_of_mem (List.mem_filter.mpr ⟨hpart, decide_eq_true hgroup⟩)

/-- The number of a payment is the id of one of its parts. -/
theorem forall₂_number : Forall₂ (fun key payment => ∃ part ∈ listed, groupOf part = some key ∧
    payment.sequenceNumber = idOf part) keys payments := by
  have hne : ∀ key ∈ keys, partsOf listed (some key) ≠ [] := fun _ => h.parts_ne_nil
  refine ((forall₂_and_left _ _).mpr ⟨hne, h.made⟩).imp ?_
  rintro key payment ⟨hparts, -, hgathers⟩
  have hids : (partsOf listed (some key)).map idOf ≠ [] := mt List.map_eq_nil_iff.mp hparts
  obtain ⟨part, hpart, hid⟩ := List.mem_map.mp (least_mem hids)
  obtain ⟨hmem, hgroup⟩ := List.mem_filter.mp hpart
  exact ⟨part, hmem, of_decide_eq_true hgroup, hgathers.sequenceNumber_eq.trans hid.symm⟩

/-- If parts have different ids, payments have different numbers. -/
theorem nodup_sequenceNumber (hids : (listed.map idOf).Nodup) :
    (payments.map (·.sequenceNumber)).Nodup := by
  refine nodup_map_of_forall₂ h.forall₂_number h.nodup ?_
  rintro key payment key' payment' ⟨part, hpart, hgroup, hnumber⟩
    ⟨part', hpart', hgroup', hnumber'⟩ hsame
  have hid : idOf part = idOf part' := by
    rw [← hnumber, ← hnumber', hsame]
  rw [List.inj_on_of_nodup_map hids hpart hpart' hid, hgroup'] at hgroup
  exact (Option.some.inj hgroup).symm

end Grouped

end Payment

/-- The payments of the node are grouped. -/
theorem Node.exists_grouped_of_ends {s t : Session} {payments : List Payment}
    (h : Ends Node.payments s payments t) :
    ∃ keys, Payment.Grouped (listedParts s.node) keys payments := by
  obtain ⟨result, hnode, hread⟩ := Rpc.node_of_ends_read h
  obtain ⟨listed, keys, hlisted, hgrouped⟩ := Payment.exists_grouped_of_readAll hread
  rw [listedParts, Rpc.listed_eq hnode hlisted]
  exact ⟨keys, hgrouped⟩

end NodeLedger
