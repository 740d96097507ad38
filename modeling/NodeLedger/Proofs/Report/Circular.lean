import NodeLedger.Proofs.Session.Steady
import NodeLedger.Proofs.Table
import NodeLedger.Report.OffChain

/-!
# Circular payments

The payments of a node are looked at one by one.  The direction of the first payment of a hash is
remembered, and those of its hash that follow have to agree with it; a payment whose destination is
not known has no direction.

So the payments have to agree with one another, whichever comes first, and a hash is circular if a
payment of it goes to the node itself.

Main results:

- Definitions `ResolvedPayment.direction?` and `ResolvedPayment.Consistent`: the direction of a
  payment, and directions that do not contradict each other.
- Theorems `ResolvedPayment.directions_of_ends` and `ResolvedPayment.exists_always_circular`:
  circular payments are found if and only if the directions of all payments are consistent.
- Theorem `ResolvedPayment.circular_of_perm`: the same ones are found in any order.
-/

namespace NodeLedger

open List NodeLedger.Action

namespace ResolvedPayment

variable {w : Situation} {own : Value} {directions after : Table Key Direction}
  {found : List (Option (Key × Bool))} {resolved : ResolvedPayment}

/-- The hash of a payment, and whether the payment goes to the node itself, if its destination is
known. -/
def direction? (own : Value) (resolved : ResolvedPayment) :
    Except Failure (Option (Key × Bool)) := do
  match resolved.destination.kept with
  | none => return none
  | some destination => return some (← resolved.payment.paymentHash.key, destination.same own)

/-- All payments of one hash either go to the node itself or do not. -/
def Consistent (found : List (Option (Key × Bool))) : Prop :=
  ∀ key toSelf toSelf', some (key, toSelf) ∈ found → some (key, toSelf') ∈ found →
    toSelf = toSelf'

/-- What is consistent stays so if some of it is left out, in any order. -/
theorem Consistent.of_subset {found' : List (Option (Key × Bool))} (h : Consistent found)
    (hsubset : found' ⊆ found) : Consistent found' := by
  intro key toSelf toSelf' hone hother
  exact h key toSelf toSelf' (hsubset hone) (hsubset hother)

/-- A table holds some directions: each hash once, with the direction of its payments. -/
structure Records (directions : Table Key Direction) (found : List (Option (Key × Bool))) :
    Prop where
  nodup : directions.keys.Nodup
  toSelf_iff : ∀ key toSelf,
    (directions.get? key).map (·.toSelf) = some toSelf ↔ some (key, toSelf) ∈ found

/-- The directions in a table are consistent. -/
theorem Records.consistent (h : Records directions found) : Consistent found := by
  intro key toSelf toSelf' hone hother
  have hget := (h.toSelf_iff key toSelf).mpr hone
  rw [(h.toSelf_iff key toSelf').mpr hother] at hget
  exact (Option.some.inj hget).symm

/-- A payment without a direction leaves the table as it is. -/
theorem Records.append_none (h : Records directions found) :
    Records directions (found ++ [none]) := by
  refine ⟨h.nodup, ?_⟩
  intro key toSelf
  rw [h.toSelf_iff]
  simp

/-- So does one whose direction is there already. -/
theorem Records.append_known (h : Records directions found) {key : Key} {toSelf : Bool}
    (hknown : some (key, toSelf) ∈ found) : Records directions (found ++ [some (key, toSelf)]) := by
  refine ⟨h.nodup, ?_⟩
  intro other otherToSelf
  rw [h.toSelf_iff, List.mem_append, List.mem_singleton]
  constructor
  · exact .inl
  · rintro (hfound | hlast)
    · exact hfound
    · cases hlast
      exact hknown

/-- The first payment of a hash gives the hash its direction. -/
theorem Records.append_new (h : Records directions found) {key : Key}
    (hnew : directions.get? key = none) (hash : Value) (toSelf : Bool) :
    Records (directions.insert key ⟨hash, toSelf⟩) (found ++ [some (key, toSelf)]) := by
  refine ⟨Table.nodup_keys_alter h.nodup key _, ?_⟩
  intro other otherToSelf
  rw [Table.get?_insert, List.mem_append, List.mem_singleton, ← h.toSelf_iff]
  by_cases hsame : key = other
  · rw [if_pos hsame, ← hsame, hnew]
    simp [eq_comm]
  · rw [if_neg hsame]
    simp [Ne.symm hsame]

/-! ## One payment -/

/-- A payment is added if its direction does not contradict those that are there. -/
theorem Records.addDirection (h : Records directions found) {s t : Session}
    (hends : Ends (addDirection own directions resolved) s after t) :
    ∃ direction, direction? own resolved = .ok direction ∧
      Records after (found ++ [direction]) := by
  unfold ResolvedPayment.addDirection at hends
  unfold direction?
  cases hkept : resolved.destination.kept with
  | none =>
    simp only [hkept, ends_bind, ends_log, ends_pure] at hends
    obtain ⟨_, _, -, rfl, -⟩ := hends
    exact ⟨none, rfl, h.append_none⟩
  | some destination =>
    simp only [hkept, ends_bind, ends_lift] at hends
    obtain ⟨key, _, ⟨hkey, -⟩, hends⟩ := hends
    refine ⟨some (key, destination.same own), bind_eq_ok_iff.mpr ⟨key, hkey, rfl⟩, ?_⟩
    cases hget : Table.get? directions key with
    | none =>
      simp only [hget, ends_pure] at hends
      rw [hends.1]
      exact h.append_new hget _ _
    | some before =>
      simp only [hget] at hends
      split at hends
      · next hagree =>
        rw [(ends_pure.mp hends).1]
        apply h.append_known
        rw [← h.toSelf_iff, hget, ← hagree]
        rfl
      · exact absurd hends not_ends_throw

/-- A payment that contradicts none of those that are there is added. -/
theorem Records.exists_always_addDirection (h : Records directions found)
    {direction : Option (Key × Bool)} (hdirection : direction? own resolved = .ok direction)
    (hconsistent : Consistent (found ++ [direction])) :
    ∃ after, Always w (ResolvedPayment.addDirection own directions resolved) after := by
  unfold ResolvedPayment.addDirection
  unfold direction? at hdirection
  cases hkept : resolved.destination.kept with
  | none => exact ⟨directions, (always_log _ _).bind (always_pure _)⟩
  | some destination =>
    rw [hkept] at hdirection
    obtain ⟨key, hkey, hdirection⟩ := bind_eq_ok_iff.mp hdirection
    cases hdirection
    have hlast : some (key, destination.same own) ∈
        found ++ [some (key, destination.same own)] := by
      simp
    cases hget : Table.get? directions key with
    | none =>
      refine ⟨directions.insert key ⟨resolved.payment.paymentHash, destination.same own⟩,
        (always_lift hkey).bind ?_⟩
      simp only [hget]
      exact always_pure _
    | some before =>
      have hbefore : some (key, before.toSelf) ∈ found ++ [some (key, destination.same own)] := by
        apply List.mem_append_left
        rw [← h.toSelf_iff, hget]
        rfl
      have hagree : before.toSelf = destination.same own := hconsistent key _ _ hbefore hlast
      refine ⟨directions, (always_lift hkey).bind ?_⟩
      simp only [hget, if_pos hagree]
      exact always_pure _

/-! ## All payments -/

/-- Payments that are added one by one are added to those that are there. -/
theorem Records.foldlM_addDirection {payments : List ResolvedPayment} {s t : Session}
    (h : Records directions found)
    (hends : Ends (payments.foldlM (ResolvedPayment.addDirection own) directions) s after t) :
    ∃ added, payments.mapM (direction? own) = .ok added ∧ Records after (found ++ added) := by
  induction payments generalizing directions found s with
  | nil =>
    rw [List.foldlM_nil, ends_pure] at hends
    rw [hends.1]
    exact ⟨[], rfl, by rwa [List.append_nil]⟩
  | cons resolved rest ih =>
    rw [List.foldlM_cons] at hends
    obtain ⟨next, u, hnext, hends⟩ := ends_bind.mp hends
    obtain ⟨direction, hdirection, hrecords⟩ := h.addDirection hnext
    obtain ⟨added, hadded, hafter⟩ := ih hrecords hends
    refine ⟨direction :: added, ?_, ?_⟩
    · rw [mapM_eq_ok_iff] at hadded ⊢
      exact .cons hdirection hadded
    · rwa [List.append_assoc] at hafter

/-- Payments that contradict neither each other nor those that are there are added. -/
theorem Records.exists_always_foldlM {payments : List ResolvedPayment} {s : Session}
    (hs : w.holds s) (h : Records directions found) {added : List (Option (Key × Bool))}
    (hadded : payments.mapM (direction? own) = .ok added)
    (hconsistent : Consistent (found ++ added)) :
    ∃ after, Always w (payments.foldlM (ResolvedPayment.addDirection own) directions) after := by
  rw [mapM_eq_ok_iff] at hadded
  induction hadded generalizing directions found s with
  | nil => exact ⟨directions, always_pure _⟩
  | @cons resolved direction rest added hdirection _ ih =>
    rw [List.append_cons] at hconsistent
    have hfront := hconsistent.of_subset (List.subset_append_left _ added)
    obtain ⟨next, hnext⟩ := h.exists_always_addDirection (w := w) hdirection hfront
    obtain ⟨t, hends, ht⟩ := hnext s hs
    obtain ⟨direction', hdirection', hrecords⟩ := h.addDirection hends
    rw [hdirection] at hdirection'
    cases hdirection'
    obtain ⟨after, hafter⟩ := ih ht hrecords hconsistent
    refine ⟨after, ?_⟩
    rw [List.foldlM_cons]
    exact hnext.bind hafter

/-- The hashes that are found are those of payments that go to the node itself. -/
theorem Records.isSome_iff (h : Records directions found) (key : Key) :
    (Table.get? ((directions.filter (·.2.toSelf)).map fun entry => (entry.1, entry.2.hash))
      key).isSome = true ↔ some (key, true) ∈ found := by
  rw [← h.toSelf_iff]
  unfold Table.get?
  rw [List.find?_map, Option.isSome_map, Option.isSome_map, List.find?_isSome]
  constructor
  · rintro ⟨⟨other, direction⟩, hmem, hkey⟩
    obtain ⟨hmem, htoSelf⟩ := List.mem_filter.mp hmem
    have hother : other = key := by simpa using hkey
    have hget := Table.get?_eq_some_of_mem h.nodup hmem
    unfold Table.get? at hget
    rw [← hother, hget]
    exact congrArg some htoSelf
  · intro hget
    obtain ⟨direction, hdirection, htoSelf⟩ := Option.map_eq_some_iff.mp hget
    obtain ⟨⟨other, _⟩, hfind, rfl⟩ := Option.map_eq_some_iff.mp hdirection
    have hkey := List.find?_some hfind
    exact ⟨_, List.mem_filter.mpr ⟨List.mem_of_find?_eq_some hfind, htoSelf⟩, hkey⟩

/-- Where circular payments are found, the directions of all payments are consistent, and what is
found are the hashes of those that go to the node itself. -/
theorem directions_of_ends {payments : List ResolvedPayment} {table : Table Key Value}
    {s t : Session} (h : Ends (circular own payments) s table t) :
    ∃ found, payments.mapM (direction? own) = .ok found ∧ Consistent found ∧
      ∀ key, (table.get? key).isSome = true ↔ some (key, true) ∈ found := by
  unfold circular at h
  obtain ⟨directions, _, hdirections, h⟩ := ends_bind.mp h
  obtain ⟨rfl, -⟩ := ends_pure.mp h
  have hempty : Records [] [] := ⟨List.nodup_nil, by simp [Table.get?]⟩
  obtain ⟨found, hfound, hrecords⟩ := hempty.foldlM_addDirection hdirections
  rw [List.nil_append] at hrecords
  exact ⟨found, hfound, hrecords.consistent, hrecords.isSome_iff⟩

/-- Where the directions of all payments are consistent, circular payments are found. -/
theorem exists_always_circular {payments : List ResolvedPayment} {s : Session} (hs : w.holds s)
    (hfound : payments.mapM (direction? own) = .ok found) (hconsistent : Consistent found) :
    ∃ table, Always w (circular own payments) table := by
  have hempty : Records [] [] := ⟨List.nodup_nil, by simp [Table.get?]⟩
  obtain ⟨after, hafter⟩ := hempty.exists_always_foldlM hs hfound hconsistent
  unfold circular
  exact ⟨_, hafter.bind (always_pure _)⟩

/-- The same hashes are circular in whatever order the payments are looked at. -/
theorem circular_of_perm {payments payments' : List ResolvedPayment} {table : Table Key Value}
    {s t : Session} (hs : w.holds s) (h : Ends (circular own payments) s table t)
    (hperm : payments ~ payments') :
    ∃ table', Always w (circular own payments') table' ∧
      ∀ hash, isCircular table' hash = isCircular table hash := by
  obtain ⟨found, hfound, hconsistent, hsome⟩ := directions_of_ends h
  obtain ⟨found', hfound', hfoundPerm⟩ := mapM_eq_ok_of_perm hfound hperm
  obtain ⟨table', htable'⟩ :=
    exists_always_circular hs hfound' (hconsistent.of_subset hfoundPerm.symm.subset)
  obtain ⟨_, hends, _⟩ := htable' s hs
  obtain ⟨found'', hfound'', -, hsome'⟩ := directions_of_ends hends
  rw [hfound'] at hfound''
  cases hfound''
  refine ⟨table', htable', ?_⟩
  intro hash
  unfold isCircular
  cases hash.key with
  | error failure => rfl
  | ok key =>
    have hiff : (table'.get? key).isSome = true ↔ (table.get? key).isSome = true := by
      rw [hsome', hsome, hfoundPerm.mem_iff]
    exact congrArg Except.ok (Bool.eq_iff_iff.mpr hiff)

end ResolvedPayment

end NodeLedger
