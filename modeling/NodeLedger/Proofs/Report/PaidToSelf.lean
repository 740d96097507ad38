import NodeLedger.Proofs.Report.Circular
import NodeLedger.Proofs.Session.Frame

/-!
# Payments of a node to itself

Whether a payment goes to the node itself is known where its destination is.  The payments of one
hash then have to agree: the search for circular payments is refused if and only if two of them do
not, and else finds the hashes of the payments that go to the node itself, with one warning for each
payment whose destination is not known.

Main results:

- Definitions `ResolvedPayment.PaidTo` and `ResolvedPayment.Disagree`: some payment of a hash goes
  to the node itself, or to another one; and there are some of both.
- Structure `ResolvedPayment.FindsCircular`: what the search has to find.
- Theorems `ResolvedPayment.findsCircular_of_ends` and `ResolvedPayment.exists_ends_circular`: the
  search finds it, and ends where the payments of each hash agree.
- Theorem `ResolvedPayment.refused_iff`: it is refused where they do not.
-/

namespace NodeLedger

open List NodeLedger.Action

/-- A session with more lines in its log. -/
def Session.writeAll (session : Session) (lines : List LogLine) : Session :=
  { session with log := session.log ++ lines }

@[simp] theorem Session.writeAll_nil (session : Session) : session.writeAll [] = session := by
  unfold writeAll
  rw [List.append_nil]

theorem Session.writeAll_singleton (session : Session) (line : LogLine) :
    session.writeAll [line] = session.write line :=
  rfl

@[simp] theorem Session.writeAll_writeAll (session : Session) (lines more : List LogLine) :
    (session.writeAll lines).writeAll more = session.writeAll (lines ++ more) := by
  unfold writeAll
  rw [List.append_assoc]

namespace ResolvedPayment

variable {own hash : Value} {key : Key} {toSelf : Bool} {payments : List ResolvedPayment}
  {resolved : ResolvedPayment} {table : Table Key Value} {s t : Session}

/-! ## What is to be found -/

/-- Whether a payment goes to the node itself, if its destination is known. -/
def toSelf? (own : Value) (resolved : ResolvedPayment) : Option Bool :=
  resolved.destination.kept.map (·.same own)

/-- Some payment of a hash goes to the node itself, or to another one. -/
def PaidTo (own : Value) (payments : List ResolvedPayment) (key : Key) (toSelf : Bool) : Prop :=
  ∃ resolved ∈ payments, resolved.payment.paymentHash.key? = some key ∧
    resolved.toSelf? own = some toSelf

/-- Some payment of a hash goes to the node itself. -/
def PaidToSelf (own : Value) (payments : List ResolvedPayment) (hash : Value) : Prop :=
  ∃ key, hash.key? = some key ∧ PaidTo own payments key true

/-- Two payments of a hash both have a known destination, but only one of them goes to the node
itself. -/
def Disagree (own : Value) (payments : List ResolvedPayment) (key : Key) : Prop :=
  PaidTo own payments key true ∧ PaidTo own payments key false

/-- The warning about a payment whose destination is not known. -/
def unknownLine (resolved : ResolvedPayment) : LogLine :=
  ⟨.warn, "payment " ++ resolved.payment.paymentHash.display ++ " destination unknown"⟩

/-- One warning for each payment whose destination is not known. -/
def unknownLines (payments : List ResolvedPayment) : List LogLine :=
  (payments.filter (·.destination.kept.isNone)).map unknownLine

/-- A table holds the hashes of the payments that go to the node itself, each of them once. -/
structure FindsCircular (own : Value) (payments : List ResolvedPayment) (table : Table Key Value) :
    Prop where
  nodup : table.keys.Nodup
  mem_keys : ∀ key, key ∈ table.keys ↔ PaidTo own payments key true
  key_of_hash : ∀ entry ∈ table, entry.2.key? = some entry.1

/-- The search is refused, since the payments of a hash are told to go to different nodes. -/
def Refused (own : Value) (payments : List ResolvedPayment) (s : Session) : Prop :=
  ∃ text, ((circular own payments).outcome s).1 = .error (.data (.differentDuplicates text))

/-! ## Directions -/

theorem paidTo_append {payments' : List ResolvedPayment} :
    PaidTo own (payments ++ payments') key toSelf ↔
      PaidTo own payments key toSelf ∨ PaidTo own payments' key toSelf := by
  unfold PaidTo
  simp only [List.mem_append, or_and_right, exists_or]

/-- A payment has a direction if its destination is known: its hash, and whether it goes to the node
itself. -/
theorem direction?_eq_ok {direction : Option (Key × Bool)}
    (h : direction? own resolved = .ok direction) :
    direction = some (key, toSelf) ↔
      resolved.payment.paymentHash.key? = some key ∧ resolved.toSelf? own = some toSelf := by
  unfold direction? at h
  unfold toSelf?
  cases hkept : resolved.destination.kept with
  | none =>
    rw [hkept] at h
    cases h
    simp
  | some destination =>
    rw [hkept] at h
    obtain ⟨found, hfound, h⟩ := bind_eq_ok_iff.mp h
    cases h
    rw [Value.key_eq_ok_iff.mp hfound]
    simp

/-- A payment has a direction, or has none, if its hash is a key. -/
theorem exists_direction? (hkey : resolved.payment.paymentHash.key = .ok key) :
    ∃ direction, direction? own resolved = .ok direction := by
  unfold direction?
  cases resolved.destination.kept with
  | none => exact ⟨none, rfl⟩
  | some destination => exact ⟨_, bind_eq_ok_iff.mpr ⟨key, hkey, rfl⟩⟩

/-- Among the directions of payments are those of which there is a payment. -/
theorem mem_directions {found : List (Option (Key × Bool))}
    (h : payments.mapM (direction? own) = .ok found) :
    some (key, toSelf) ∈ found ↔ PaidTo own payments key toSelf := by
  have hrelated := mapM_eq_ok_iff.mp h
  constructor
  · intro hmem
    obtain ⟨resolved, hresolved, hdirection⟩ := exists_of_mem_right hrelated hmem
    exact ⟨resolved, hresolved, (direction?_eq_ok hdirection).mp rfl⟩
  · rintro ⟨resolved, hresolved, hpaid⟩
    obtain ⟨direction, hmem, hdirection⟩ := exists_of_mem_right hrelated.flip hresolved
    rwa [← (direction?_eq_ok hdirection).mpr hpaid]

/-- The directions of payments are consistent if no two payments of a hash disagree. -/
theorem consistent_iff {found : List (Option (Key × Bool))}
    (h : payments.mapM (direction? own) = .ok found) :
    Consistent found ↔ ∀ key, ¬ Disagree own payments key := by
  constructor
  · rintro hconsistent key ⟨hself, hother⟩
    rw [← mem_directions h] at hself hother
    cases hconsistent key true false hself hother
  · intro hagree key toSelf toSelf' hone hother
    rw [mem_directions h] at hone hother
    cases toSelf <;> cases toSelf'
    · rfl
    · exact absurd ⟨hother, hone⟩ (hagree key)
    · exact absurd ⟨hone, hother⟩ (hagree key)
    · rfl

/-! ## One payment -/

/-- The warning about a payment, if its destination is not known. -/
theorem unknownLines_append (front back : List ResolvedPayment) :
    unknownLines (front ++ back) = unknownLines front ++ unknownLines back := by
  unfold unknownLines
  rw [List.filter_append, List.map_append]

/-- All that a payment leaves behind in the session is the warning about it. -/
theorem writeAll_of_ends_addDirection {directions after : Table Key Direction}
    (h : Ends (addDirection own directions resolved) s after t) :
    t = s.writeAll (unknownLines [resolved]) := by
  unfold addDirection at h
  cases hkept : resolved.destination.kept with
  | none =>
    simp only [hkept, ends_bind, ends_log, ends_pure] at h
    obtain ⟨_, _, rfl, -, rfl⟩ := h
    simp [unknownLines, unknownLine, hkept, Session.writeAll_singleton]
  | some destination =>
    have hnone : unknownLines [resolved] = [] := by simp [unknownLines, hkept]
    rw [hnone, Session.writeAll_nil]
    simp only [hkept, ends_bind, ends_lift] at h
    obtain ⟨_, _, ⟨-, rfl⟩, h⟩ := h
    split at h
    · exact (ends_pure.mp h).2
    · split at h
      · exact (ends_pure.mp h).2
      · exact absurd h not_ends_throw

/-- Each direction in a table stands under the key of its hash. -/
def Keyed (directions : Table Key Direction) : Prop :=
  ∀ entry ∈ directions, entry.2.hash.key? = some entry.1

/-- One more payment leaves the directions under the keys of their hashes. -/
theorem Keyed.addDirection {directions after : Table Key Direction} (hkeyed : Keyed directions)
    (h : Ends (addDirection own directions resolved) s after t) : Keyed after := by
  unfold ResolvedPayment.addDirection at h
  cases hkept : resolved.destination.kept with
  | none =>
    simp only [hkept, ends_bind, ends_pure] at h
    obtain ⟨_, _, -, rfl, -⟩ := h
    exact hkeyed
  | some destination =>
    simp only [hkept, ends_bind, ends_lift] at h
    obtain ⟨key, _, ⟨hkey, -⟩, h⟩ := h
    split at h
    · rw [(ends_pure.mp h).1]
      intro entry hentry
      rcases Table.mem_of_mem_alter hentry with hentry | rfl
      · exact hkeyed entry hentry
      · exact Value.key_eq_ok_iff.mp hkey
    · split at h
      · rw [(ends_pure.mp h).1]
        exact hkeyed
      · exact absurd h not_ends_throw

/-- A payment is refused only if its direction contradicts one that is there. -/
theorem Records.contradicts_of_refused {directions : Table Key Direction}
    {found : List (Option (Key × Bool))} (hrecords : Records directions found) {failure : Failure}
    (hkey : resolved.payment.paymentHash.key = .ok key)
    (h : ((ResolvedPayment.addDirection own directions resolved).outcome s).1 = .error failure) :
    failure = .data (.differentDuplicates resolved.payment.paymentHash.display) ∧
      ∃ toSelf, resolved.toSelf? own = some toSelf ∧ some (key, !toSelf) ∈ found := by
  unfold ResolvedPayment.addDirection at h
  unfold toSelf?
  cases hkept : resolved.destination.kept with
  | none =>
    rw [hkept, outcome_bind, log, outcome_modify] at h
    cases h
  | some destination =>
    simp only [hkept, outcome_bind, outcome_lift, hkey] at h
    cases hget : Table.get? directions key with
    | none => simp [hget] at h
    | some before =>
      by_cases hagree : before.toSelf = destination.same own
      · simp [hget, hagree] at h
      · simp only [hget, hagree, if_false, outcome_throw] at h
        cases h
        refine ⟨rfl, destination.same own, rfl, ?_⟩
        rw [← hrecords.toSelf_iff, hget]
        simpa [Bool.eq_not] using hagree

/-! ## All payments -/

/-- A search that ends has found the hashes of the payments that go to the node itself, and has left
one warning for each payment whose destination is not known.  No two payments of a hash disagree. -/
theorem findsCircular_of_ends (h : Ends (circular own payments) s table t) :
    FindsCircular own payments table ∧ t = s.writeAll (unknownLines payments) ∧
      ∀ key, ¬ Disagree own payments key := by
  obtain ⟨found, hfound, hconsistent, hsome⟩ := directions_of_ends h
  have hmem : ∀ key, key ∈ table.keys ↔ PaidTo own payments key true := by
    intro key
    rw [← mem_directions hfound, ← hsome, Table.isSome_get?_iff]
  unfold circular at h
  obtain ⟨directions, u, hdirections, h⟩ := ends_bind.mp h
  obtain ⟨rfl, rfl⟩ := ends_pure.mp h
  have hempty : Records [] [] := ⟨List.nodup_nil, by simp [Table.get?]⟩
  obtain ⟨_, -, hrecords⟩ := hempty.foldlM_addDirection hdirections
  have hkeyed : Keyed directions ∧ t = s.writeAll (unknownLines payments) := by
    refine hdirections.foldlM
      (fun done directions u => Keyed directions ∧ u = s.writeAll (unknownLines done)) ?_
      ⟨fun _ hentry => absurd hentry List.not_mem_nil, (Session.writeAll_nil s).symm⟩
    rintro done resolved before after u v ⟨hkeyed, rfl⟩ hnext
    refine ⟨hkeyed.addDirection hnext, ?_⟩
    rw [writeAll_of_ends_addDirection hnext, Session.writeAll_writeAll, ← unknownLines_append]
  refine ⟨⟨?_, hmem, ?_⟩, hkeyed.2, (consistent_iff hfound).mp hconsistent⟩
  · have hsub : ((directions.filter (·.2.toSelf)).map (·.1)).Sublist directions.keys :=
      List.filter_sublist.map _
    simpa [Table.keys, Function.comp_def] using hsub.nodup hrecords.nodup
  · intro entry hentry
    obtain ⟨direction, hdirection, rfl⟩ := List.mem_map.mp hentry
    exact hkeyed.1 direction (List.mem_filter.mp hdirection).1

/-- Where no two payments of a hash disagree, the search ends. -/
theorem exists_ends_circular (hkeys : ∀ p ∈ payments, p.payment.paymentHash.key?.isSome)
    (hagree : ∀ key, ¬ Disagree own payments key) (s : Session) :
    ∃ table t, Ends (circular own payments) s table t := by
  have hdirections : ∀ p ∈ payments, ∃ direction, direction? own p = .ok direction := by
    intro p hp
    obtain ⟨key, hkey⟩ := Option.isSome_iff_exists.mp (hkeys p hp)
    exact exists_direction? (Value.key_eq_ok_iff.mpr hkey)
  obtain ⟨found, hrelated⟩ := exists_forall₂ hdirections
  have hfound := mapM_eq_ok_iff.mpr hrelated
  have hnow : (Situation.atTime s.now).holds s := rfl
  obtain ⟨table, halways⟩ := exists_always_circular hnow hfound ((consistent_iff hfound).mpr hagree)
  obtain ⟨t, hends, -⟩ := halways s hnow
  exact ⟨table, t, hends⟩

/-- Payments are refused only if two of a hash disagree, or one contradicts what is there. -/
theorem Records.contradicts_of_foldlM {directions : Table Key Direction}
    {found : List (Option (Key × Bool))} (hrecords : Records directions found) {failure : Failure}
    (hkeys : ∀ p ∈ payments, p.payment.paymentHash.key?.isSome)
    (h : ((payments.foldlM (ResolvedPayment.addDirection own) directions).outcome s).1 =
      .error failure) :
    ∃ p ∈ payments, failure = .data (.differentDuplicates p.payment.paymentHash.display) ∧
      ∃ key toSelf, p.payment.paymentHash.key? = some key ∧ p.toSelf? own = some toSelf ∧
        (some (key, !toSelf) ∈ found ∨ PaidTo own payments key !toSelf) := by
  induction payments generalizing directions found s with
  | nil => cases h
  | cons resolved rest ih =>
    rw [List.forall_mem_cons] at hkeys
    obtain ⟨key, hkey⟩ := Option.isSome_iff_exists.mp hkeys.1
    rw [List.foldlM_cons, outcome_bind] at h
    cases hfirst : (ResolvedPayment.addDirection own directions resolved).outcome s with
    | mk result u =>
      rw [hfirst] at h
      cases result with
      | error other =>
        cases h
        obtain ⟨hfailure, toSelf, htoSelf, hfound⟩ :=
          hrecords.contradicts_of_refused (Value.key_eq_ok_iff.mpr hkey)
            (congrArg Prod.fst hfirst)
        exact ⟨resolved, List.mem_cons_self, hfailure, key, toSelf, hkey, htoSelf, .inl hfound⟩
      | ok next =>
        obtain ⟨direction, hdirection, hnext⟩ := hrecords.addDirection hfirst
        obtain ⟨p, hp, hfailure, key, toSelf, hkey, htoSelf, hother⟩ := ih hnext hkeys.2 h
        refine ⟨p, List.mem_cons_of_mem _ hp, hfailure, key, toSelf, hkey, htoSelf, ?_⟩
        rcases hother with hother | ⟨q, hq, hpaid⟩
        · rcases List.mem_append.mp hother with hother | hother
          · exact .inl hother
          · rw [List.mem_singleton, eq_comm, direction?_eq_ok hdirection] at hother
            exact .inr ⟨resolved, List.mem_cons_self, hother⟩
        · exact .inr ⟨q, List.mem_cons_of_mem _ hq, hpaid⟩

/-- A search that does not end is refused for a hash whose payments disagree. -/
theorem disagree_of_fails (hkeys : ∀ p ∈ payments, p.payment.paymentHash.key?.isSome)
    {failure : Failure} (h : ((circular own payments).outcome s).1 = .error failure) :
    ∃ key, Disagree own payments key ∧ ∃ p ∈ payments, p.payment.paymentHash.key? = some key ∧
      failure = .data (.differentDuplicates p.payment.paymentHash.display) := by
  have hfold : ((payments.foldlM (addDirection own) []).outcome s).1 = .error failure := by
    unfold circular at h
    rw [outcome_bind] at h
    cases hresult : (payments.foldlM (addDirection own) []).outcome s with
    | mk result u =>
      rw [hresult] at h
      cases result with
      | error other => simpa using h
      | ok directions => simp at h
  have hempty : Records [] [] := ⟨List.nodup_nil, by simp [Table.get?]⟩
  obtain ⟨p, hp, hfailure, key, toSelf, hkey, htoSelf, hother⟩ :=
    hempty.contradicts_of_foldlM hkeys hfold
  have hpaid : PaidTo own payments key toSelf := ⟨p, hp, hkey, htoSelf⟩
  have hother := hother.resolve_left List.not_mem_nil
  refine ⟨key, ?_, p, hp, hkey, hfailure⟩
  cases toSelf with
  | true => exact ⟨hpaid, hother⟩
  | false => exact ⟨hother, hpaid⟩

/-- The search is refused for payments of one hash that do not agree, and only for those. -/
theorem refused_iff (hkeys : ∀ p ∈ payments, p.payment.paymentHash.key?.isSome) (s : Session) :
    Refused own payments s ↔ ∃ key, Disagree own payments key := by
  constructor
  · rintro ⟨text, htext⟩
    obtain ⟨key, hdisagree, -⟩ := disagree_of_fails hkeys htext
    exact ⟨key, hdisagree⟩
  · rintro ⟨key, hdisagree⟩
    cases hresult : ((circular own payments).outcome s).1 with
    | ok table =>
      obtain ⟨-, -, hagree⟩ := findsCircular_of_ends (ends_of_outcome hresult)
      exact absurd hdisagree (hagree key)
    | error failure =>
      obtain ⟨-, -, p, -, -, rfl⟩ := disagree_of_fails hkeys hresult
      exact ⟨_, hresult⟩

/-- What is looked up in the table is whether some payment of a hash goes to the node itself. -/
theorem FindsCircular.isCircular_iff (h : FindsCircular own payments table) {circular : Bool}
    (hcircular : isCircular table hash = .ok circular) :
    circular = true ↔ PaidToSelf own payments hash := by
  obtain ⟨key, hkey, hcircular⟩ := bind_eq_ok_iff.mp hcircular
  cases hcircular
  rw [Table.isSome_get?_iff, h.mem_keys]
  unfold PaidToSelf
  rw [Value.key_eq_ok_iff.mp hkey]
  simp

end ResolvedPayment

end NodeLedger
