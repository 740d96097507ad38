import NodeLedger.Proofs.Node.Aggregation

/-!
# Fees that are recorded

The fee of a transaction is told twice: together with the transaction, from the fee events of the
wallet that belong to it, and by itself, from all fee events that name it.  Both are the same if
these are the same events.

Main results:

- Theorem `Value.key?_of_same`: values that are the same have the same key.
- Theorem `Bookkeeper.fee_eq_of_figures`: the fee that is told by itself is that of the
  transaction.
- Theorem `Bookkeeper.fee_of_perm`: it does not depend on the order of the events, nor on events
  that are no fees of the transaction.
- Theorem `History.recorded_fees_agree`: what the node tells of fees if the bookkeeper answers.
-/

namespace NodeLedger

open List NodeLedger.Action NodeLedger.Numeral

/-! ## Values that are the same -/

/-- Whether what is found by a key counts as true. -/
def Key.truthy : Key → Bool
  | null => false
  | number units => units != 0
  | infinite _ => true
  | nan => true
  | decimal d => !d.isZero
  | text s => !s.isEmpty

namespace Value

variable {v w : Value} {key : Key}

theorem oneInUnits_ne_zero : oneInUnits ≠ 0 := by
  decide +kernel

/-- A value counts as true if what it is found by does. -/
theorem truthy_of_key? (h : v.key? = some key) : v.truthy = key.truthy := by
  cases v with
  | null | decimal _ | text _ =>
    cases h
    rfl
  | bool b =>
    have hone := oneInUnits_ne_zero
    cases h
    cases b <;> simp [truthy, Key.truthy, hone]
  | int n =>
    cases h
    simp [truthy, Key.truthy, oneInUnits_ne_zero, bne]
  | float x =>
    cases x with
    | nan | infinite _ =>
      cases h
      rfl
    | finite negative m e =>
      cases h
      cases negative <;> simp [truthy, Key.truthy, Binary64.isZero, bne]
  | list _ | object _ => cases h

/-- A number is found by its value. -/
theorem key?_of_units {x : Int} (h : v.units? = some x) : v.key? = some (.number x) := by
  cases v with
  | bool _ | int _ =>
    cases h
    rfl
  | float x =>
    cases x with
    | finite negative m e =>
      cases h
      rfl
    | _ => cases h
  | _ => cases h

/-- Floating point numbers of one value are equal, or finite. -/
theorem eq_or_units_of_sameFloat {a b : Binary64} (h : a.same b = true) :
    a = b ∨ ∃ x, a.units? = some x ∧ b.units? = some x := by
  unfold Binary64.same at h
  obtain ⟨hle, hge⟩ := Bool.and_eq_true_iff.mp h
  cases a with
  | nan => cases hle
  | infinite negative =>
    cases b with
    | nan => cases hle
    | infinite negative' => cases negative <;> cases negative' <;> simp_all [Binary64.le]
    | finite negative' m e => cases negative <;> simp_all [Binary64.le]
  | finite negative m e =>
    cases b with
    | nan => cases hle
    | infinite negative' => cases negative' <;> simp_all [Binary64.le]
    | finite negative' m' e' =>
      refine .inr ⟨_, rfl, ?_⟩
      simp only [Binary64.le, Binary64.units?, decide_eq_true_eq] at hle hge ⊢
      exact congrArg some (Int.le_antisymm hge hle)

/-- Values that are the same are equal or numbers of one value, unless they have parts. -/
theorem eq_or_units_of_same (h : v.same w = true) (hkey : w.key? = some key) :
    v = w ∨ ∃ x, v.units? = some x ∧ w.units? = some x := by
  unfold same at h
  split at h
  · exact .inl rfl
  · exact .inl (congrArg text (eq_of_beq h))
  · exact .inl (congrArg int (eq_of_beq h))
  · exact (eq_or_units_of_sameFloat h).imp_left (congrArg float)
  · cases hkey
  · cases hkey
  · split at h
    · next x y hx hy =>
      obtain rfl := eq_of_beq h
      exact .inr ⟨x, hx, hy⟩
    · cases h

/-- Values that are the same have the same key. -/
theorem key?_of_same (h : v.same w = true) (hkey : w.key? = some key) : v.key? = some key := by
  rcases eq_or_units_of_same h hkey with rfl | ⟨x, hv, hw⟩
  · exact hkey
  · rw [key?_of_units hv, ← key?_of_units hw, hkey]

end Value

/-! ## Both fees -/

namespace Bookkeeper

variable {events events' others : List Value} {txs : List Transaction} {key : Key} {txid : Value}

/-- An event that names a transaction by the id of its own belongs to it, unless it spends an output
by another one. -/
theorem keyOf_of_same {event : Value} (hsame : (event.fieldOr "txid" .null).same txid = true)
    (hspending : (event.fieldOr "spending_txid" .null).truthy = false)
    (hkey : txid.key? = some key) (htruthy : key.truthy = true) : keyOf event = some key := by
  have hown := Value.key?_of_same hsame hkey
  have hown' := (Value.truthy_of_key? hown).trans htruthy
  have hid : idOf event = event.fieldOr "txid" .null := by
    unfold idOf Value.orElse
    simp [hspending, hown']
  unfold keyOf
  rw [hid, if_pos hown', hown]

/-- Whether an event belongs to a transaction, by whichever of its ids. -/
def resolvesTo (txid event : Value) : Bool :=
  (keyOf event).any fun key => decide (txid.key? = some key)

/-- All fee events that belong to a transaction or name it are of the wallet, name it, and spend no
output by another one. -/
def NamedByFees (events : List Value) (txid : Value) : Prop :=
  ∀ event ∈ events, isFee event = true →
    (resolvesTo txid event = true ∨ (event.fieldOr "txid" .null).same txid = true) →
    isOfWallet event = true ∧ (event.fieldOr "txid" .null).same txid = true ∧
      (event.fieldOr "spending_txid" .null).truthy = false

instance (events : List Value) (txid : Value) : Decidable (NamedByFees events txid) :=
  inferInstanceAs (Decidable (∀ event ∈ events, _))

/-- Then the fee events of the wallet that belong to the transaction are those that name it. -/
theorem filter_isFeeOf_eq (hnamed : NamedByFees events txid) (hkey : txid.key? = some key)
    (htruthy : key.truthy = true) :
    events.filter (isFeeOf txid) = ofTransaction isFee events key := by
  refine List.filter_congr fun event hevent => ?_
  rw [Bool.eq_iff_iff]
  simp only [isFeeOf, Bool.and_eq_true, decide_eq_true_eq]
  constructor
  · rintro ⟨hfee, hsame⟩
    obtain ⟨hwallet, -, hspending⟩ := hnamed event hevent hfee (.inr hsame)
    exact ⟨⟨hwallet, hfee⟩, keyOf_of_same hsame hspending hkey htruthy⟩
  · rintro ⟨⟨-, hfee⟩, hown⟩
    have hresolves : resolvesTo txid event = true := by simp [resolvesTo, hown, hkey]
    obtain ⟨-, hsame, -⟩ := hnamed event hevent hfee (.inl hresolves)
    exact ⟨hfee, hsame⟩

/-- A transaction that is told has the figures of one of the keys, which counts as true. -/
theorem exists_figuresOf {tx : Transaction} (h : transactions events = .ok txs) (htx : tx ∈ txs) :
    ∃ key, key.truthy = true ∧ tx.figures = figuresOf events key := by
  have hfigures : tx.figures ∈ (keysOf events).map (figuresOf events) := by
    rw [← figures_of_transactions h]
    exact List.mem_map_of_mem htx
  obtain ⟨key, hkey, hsame⟩ := List.mem_map.mp hfigures
  obtain ⟨event, -, -, -, hown⟩ := mem_keysOf_iff.mp hkey
  have htruthy : (idOf event).truthy = true := by
    unfold keyOf at hown
    split at hown
    · next hid => exact hid
    · cases hown
  exact ⟨key, (Value.truthy_of_key? (key?_idOf hown)).symm.trans htruthy, hsame.symm⟩

/-- The fee that is told by itself is that of the transaction. -/
theorem fee_of_transactions {tx : Transaction} (h : transactions events = .ok txs) (htx : tx ∈ txs)
    (hnamed : NamedByFees events tx.txid) : Bookkeeper.fee tx.txid events = .ok tx.fee := by
  obtain ⟨key, htruthy, hfigures⟩ := exists_figuresOf h htx
  have hkey : tx.txid.key? = some key := congrArg Figures.key hfigures
  have hfee : tx.fee = (figuresOf events key).fee := congrArg Figures.fee hfigures
  obtain ⟨hsound, -⟩ := transactions_eq_ok_iff.mp h
  rw [fee_eq_ok_iff, filter_isFeeOf_eq hnamed hkey htruthy]
  exact ⟨fun event hevent => (hsound event hevent).isObject, hfee⟩

/-- A fee does not depend on the order of the events, nor on events that are no fees of the
transaction. -/
theorem fee_eq_ok_iff_of_perm {fee : Int} (hperm : events' ~ events ++ others)
    (hobject : ∀ event ∈ others, event.IsObject)
    (hothers : ∀ event ∈ others, isFeeOf txid event = false) :
    Bookkeeper.fee txid events' = .ok fee ↔ Bookkeeper.fee txid events = .ok fee := by
  have hobjects : (∀ event ∈ events', event.IsObject) ↔ ∀ event ∈ events, event.IsObject := by
    simp only [hperm.mem_iff, List.forall_mem_append]
    exact and_iff_left hobject
  have hnone : others.filter (isFeeOf txid) = [] := by
    simpa [List.filter_eq_nil_iff] using hothers
  have hsum : ((events'.filter (isFeeOf txid)).map change).sum =
      ((events.filter (isFeeOf txid)).map change).sum := by
    rw [((hperm.filter (isFeeOf txid)).map change).sum_eq, List.filter_append, hnone,
      List.append_nil]
  rw [fee_eq_ok_iff, fee_eq_ok_iff, hobjects, hsum]

end Bookkeeper

/-! ## Fees of a node whose bookkeeper answers -/

namespace History

open Bookkeeper

theorem reads_recordedFee {node : String → Value → Except Value Value} {now : Int}
    {events : List Value} (h : listedEvents node = .ok events) (txid : Value) :
    Reads (.ofNode node now) (recordedFee txid) (Bookkeeper.fee txid events) := by
  have hreads : Reads (.ofNode node now) (recordedFee txid)
      (listedEvents node >>= Bookkeeper.fee txid) :=
    reads_events.bind fun listed _ => reads_lift (Bookkeeper.fee txid listed)
  rw [h] at hreads
  exact hreads

/-- If the bookkeeper answers the fee that is looked up for a transaction is the one told with it,
as long as all its fee events are of the wallet and name it.  For any id whatsoever the order of
the events does not matter, and neither do events that are no fees of that id. -/
theorem recorded_fees_agree {s : Session} {events : List Value}
    (hcache : s.cache.Agrees s.node) (hevents : listedEvents s.node = .ok events) :
    (∀ txs t, Ends transactions s txs t → ∀ tx ∈ txs, NamedByFees events tx.txid →
      ∀ u : Session, u.node = s.node → u.cache.Agrees u.node →
        ∃ v, Ends (recordedFee tx.txid) u tx.fee v) ∧
    ∀ (txid : Value) (s' : Session) (events' others : List Value), s'.cache.Agrees s'.node →
      listedEvents s'.node = .ok events' → events' ~ events ++ others →
      (∀ event ∈ others, event.IsObject) → (∀ event ∈ others, isFeeOf txid event = false) →
      ∀ fee, (∃ t', Ends (recordedFee txid) s' fee t') ↔ ∃ t, Ends (recordedFee txid) s fee t := by
  have hends_iff {u : Session} {listed : List Value} (hcache : u.cache.Agrees u.node)
      (hlisted : listedEvents u.node = .ok listed) (txid : Value) (fee : Int) :
      (∃ v, Ends (recordedFee txid) u fee v) ↔ Bookkeeper.fee txid listed = .ok fee := by
    have hreads : Reads (.ofNode u.node u.now) (recordedFee txid) (Bookkeeper.fee txid listed) :=
      reads_recordedFee hlisted txid
    constructor
    · rintro ⟨v, hends⟩
      exact hreads.eq_ok u fee v ⟨rfl, rfl, hcache⟩ hends
    · intro hfee
      obtain ⟨v, hends, -⟩ := hreads.always fee hfee u ⟨rfl, rfl, hcache⟩
      exact ⟨v, hends⟩
  refine ⟨?_, ?_⟩
  · intro txs t hends tx htx hnamed u hnode hu
    have htold := (Bookkeeper.reads_transactions hevents).eq_ok s txs t ⟨rfl, rfl, hcache⟩ hends
    rw [← hnode] at hevents
    exact (hends_iff hu hevents _ _).mpr (fee_of_transactions htold htx hnamed)
  · intro txid s' events' others hcache' hevents' hperm hobject hothers fee
    rw [hends_iff hcache' hevents', hends_iff hcache hevents]
    exact fee_eq_ok_iff_of_perm hperm hobject hothers

/-- The fee of 140 satoshis is looked up for the second transaction of the sample, also if the
events are listed from the last to the first and followed by the fee of the other transaction. -/
theorem recorded_fees_agree_spendingEvents :
    let others := [Value.object [("type", .text "onchain_fee"), ("txid", .text "paying"),
      ("credit_msat", .int 9000)]]
    NamedByFees spendingEvents (.text "spending") ∧
    (∃ v, Ends (recordedFee (.text "spending")) { node := listingNode spendingEvents } 140 v) ∧
    ∃ v', Ends (recordedFee (.text "spending"))
      { node := listingNode (spendingEvents.reverse ++ others) } 140 v' := by
  intro others
  obtain ⟨txs, hends, hfigures⟩ : ∃ txs,
      Ends transactions { node := listingNode spendingEvents } txs
        (transactions.outcome { node := listingNode spendingEvents }).2 ∧
      txs.map Transaction.figures = [⟨some (.text "paying"), 5000, 0, 100, 1⟩,
        ⟨some (.text "spending"), -2141, 140, 200, 1⟩] :=
    exists_ends_of_outcome (by decide +kernel)
  have hmem : ⟨some (.text "spending"), -2141, 140, 200, 1⟩ ∈ txs.map Transaction.figures := by
    rw [hfigures]
    decide +kernel
  obtain ⟨tx, htx, htold⟩ := List.mem_map.mp hmem
  have hid : tx.txid = .text "spending" := Value.eq_text_of_key? (congrArg Figures.key htold)
  have hfee : tx.fee = 140 := congrArg Figures.fee htold
  have hnamed : NamedByFees spendingEvents (.text "spending") := by decide +kernel
  obtain ⟨hagree, hunchanged⟩ := recorded_fees_agree (s := { node := listingNode spendingEvents })
    NodeCache.agrees_empty (show listedEvents _ = .ok spendingEvents from rfl)
  have hlooked := hagree txs _ hends tx htx (hid ▸ hnamed)
    { node := listingNode spendingEvents } rfl NodeCache.agrees_empty
  rw [hid, hfee] at hlooked
  have hobject : ∀ event ∈ others, event.IsObject := by simp [others, Value.IsObject]
  have hothers : ∀ event ∈ others, isFeeOf (.text "spending") event = false := by decide +kernel
  have hsame := hunchanged (.text "spending")
    { node := listingNode (spendingEvents.reverse ++ others) } (spendingEvents.reverse ++ others)
    others NodeCache.agrees_empty rfl ((List.reverse_perm _).append_right _) hobject hothers 140
  exact ⟨hnamed, hlooked, hsame.mpr hlooked⟩

end History
end NodeLedger
