import NodeLedger.Fee
import NodeLedger.Proofs.Session.Frame

/-!
# Actions that come to the same, failures included

Two runs are compared step by step, whether they end with a value or fail.  Where the one gives a
value the other one gives a related value, and where the one fails the other one fails for the same
cause.  The sessions stay paired either way, so that what follows a failure can be compared too.

Main results:

- Definition `Matches`: two checks match.  Theorems `Matches.bind`, `Matches.mapM`,
  `Matches.foldlM` and those beside them: so do checks that are made of such.
- Structure `Pairing`: how the sessions of two runs are related.
- Definition `Action.Mirrors`: two actions match in all sessions that are paired, and leave them
  paired.  Theorems `Action.Mirrors.bind` and `Action.Mirrors.mapM`: so do actions that are made of
  such.
-/

namespace NodeLedger

open List

variable {α α' β β' : Type} {R : α → β → Prop} {S : α' → β' → Prop}

/-! ## Checks -/

/-- Two checks match if they succeed with related values or fail for the same cause. -/
inductive Matches (R : α → β → Prop) : Except Failure α → Except Failure β → Prop where
  | ok {a : α} {b : β} (h : R a b) : Matches R (.ok a) (.ok b)
  | error (failure : Failure) : Matches R (.error failure) (.error failure)

/-- A check matches itself. -/
theorem matches_self (r : Except Failure α) : Matches Eq r r := by
  cases r with
  | error failure => exact .error failure
  | ok a => exact .ok rfl

/-- The values that a check matches itself with are those that it succeeds with. -/
theorem matches_attained (r : Except Failure α) :
    Matches (fun a b => a = b ∧ r = .ok a) r r := by
  cases r with
  | error failure => exact .error failure
  | ok a => exact .ok ⟨rfl, rfl⟩

/-- Checks that match up to equality are the same. -/
theorem matches_eq_iff {r r' : Except Failure α} : Matches Eq r r' ↔ r = r' := by
  constructor
  · rintro (⟨rfl⟩ | _) <;> rfl
  · rintro rfl
    exact matches_self r

theorem Matches.imp {T : α → β → Prop} {r : Except Failure α} {r' : Except Failure β}
    (h : Matches R r r') (hRT : ∀ a b, R a b → T a b) : Matches T r r' := by
  cases h with
  | ok hab => exact .ok (hRT _ _ hab)
  | error failure => exact .error failure

/-- Two checks one after the other. -/
theorem Matches.bind {r : Except Failure α} {r' : Except Failure β}
    {next : α → Except Failure α'} {next' : β → Except Failure β'} (h : Matches R r r')
    (hnext : ∀ a b, R a b → Matches S (next a) (next' b)) :
    Matches S (r >>= next) (r' >>= next') := by
  cases h with
  | ok hab => exact hnext _ _ hab
  | error failure => exact .error failure

/-- Checks of the items of two lists match if those of related items do. -/
theorem Matches.mapM {f : α → Except Failure α'} {g : β → Except Failure β'}
    (h : ∀ a b, R a b → Matches S (f a) (g b)) {as : List α} {bs : List β}
    (hlists : Forall₂ R as bs) : Matches (Forall₂ S) (as.mapM f) (bs.mapM g) := by
  induction hlists with
  | nil => exact .ok .nil
  | cons hab _ ih =>
    rw [List.mapM_cons, List.mapM_cons]
    exact (h _ _ hab).bind fun a b hab' => ih.bind fun as bs hrest => .ok (.cons hab' hrest)

/-- If related items are read alike, so are lists of related items. -/
theorem mapM_eq_of_forall₂ {f : α → Except Failure α'} {g : β → Except Failure α'}
    (h : ∀ a b, R a b → f a = g b) {as : List α} {bs : List β} (hlists : Forall₂ R as bs) :
    as.mapM f = bs.mapM g := by
  have hmatches := Matches.mapM (fun a b hab => matches_eq_iff.mpr (h a b hab)) hlists
  rw [forall₂_eq_eq_eq] at hmatches
  exact matches_eq_iff.mp hmatches

/-- So it is if something is looked for among the items. -/
theorem anyM_eq_of_forall₂ {p : α → Except Failure Bool} {q : β → Except Failure Bool}
    (h : ∀ a b, R a b → p a = q b) {as : List α} {bs : List β} (hlists : Forall₂ R as bs) :
    as.anyM p = bs.anyM q := by
  induction hlists with
  | nil => rfl
  | cons hab _ ih => rw [List.anyM, List.anyM, h _ _ hab, ih]

/-- What is gathered from the items of two lists stays related if each step keeps it so. -/
theorem Matches.foldlM {f : α' → α → Except Failure α'} {g : β' → β → Except Failure β'}
    {as : List α} {bs : List β} (hlists : Forall₂ R as bs) {a' : α'} {b' : β'} (hstart : S a' b')
    (h : ∀ a' b' a b, S a' b' → R a b → Matches S (f a' a) (g b' b)) :
    Matches S (as.foldlM f a') (bs.foldlM g b') := by
  induction hlists generalizing a' b' with
  | nil => exact .ok hstart
  | cons hab _ ih =>
    rw [List.foldlM_cons, List.foldlM_cons]
    exact (h _ _ _ _ hstart hab).bind fun a' b' hnext => ih hnext

/-- The items of two lists that pass a check are related if the check does not tell related items
apart. -/
theorem Matches.filterM {p : α → Except Failure Bool} {q : β → Except Failure Bool}
    (h : ∀ a b, R a b → p a = q b) {as : List α} {bs : List β} (hlists : Forall₂ R as bs) :
    Matches (Forall₂ R) (as.filterM p) (bs.filterM q) := by
  -- Those that have passed are kept in reverse.
  have hkept : ∀ kept kept', Forall₂ R kept kept' →
      Matches (Forall₂ R) (as.filterAuxM p kept) (bs.filterAuxM q kept') := by
    induction hlists with
    | nil => exact fun kept kept' hpassed => .ok hpassed
    | cons hab _ ih =>
      intro kept kept' hpassed
      rw [List.filterAuxM, List.filterAuxM, h _ _ hab]
      refine (matches_self _).bind ?_
      rintro (_ | _) _ rfl
      · exact ih kept kept' hpassed
      · exact ih _ _ (.cons hab hpassed)
  exact (hkept [] [] .nil).bind fun kept kept' hpassed => .ok (forall₂_reverse_iff.mpr hpassed)

/-! ## Actions -/

/-- How the sessions of two runs are related all the while.  Log lines do not matter. -/
structure Pairing where
  paired : Session → Session → Prop
  paired_write : ∀ s s' line line', paired s s' → paired (s.write line) (s'.write line')

namespace Action

variable {p : Pairing}

/-- Two actions come to results that match in any sessions that are paired, and the sessions that
they leave behind are paired too. -/
def Mirrors (p : Pairing) (R : α → β → Prop) (act : Action α) (act' : Action β) : Prop :=
  ∀ s s', p.paired s s' →
    Matches R (act.outcome s).1 (act'.outcome s').1 ∧
      p.paired (act.outcome s).2 (act'.outcome s').2

theorem mirrors_pure {a : α} {b : β} (h : R a b) : Mirrors p R (pure a) (pure b) :=
  fun _ _ hpaired => ⟨.ok h, hpaired⟩

theorem mirrors_throw (failure : Failure) :
    Mirrors p R (throw failure : Action α) (throw failure : Action β) :=
  fun _ _ hpaired => ⟨.error failure, hpaired⟩

theorem mirrors_lift {r : Except Failure α} {r' : Except Failure β} (h : Matches R r r') :
    Mirrors p R (liftM r : Action α) (liftM r' : Action β) :=
  fun _ _ hpaired => ⟨h, hpaired⟩

/-- A check that does not depend on the session. -/
theorem mirrors_check (r : Except Failure α) :
    Mirrors p Eq (liftM r : Action α) (liftM r) :=
  mirrors_lift (matches_self r)

/-- A result that an action continues with. -/
theorem mirrors_feeLift {r : Except Failure α} {r' : Except Failure β} (h : Matches R r r') :
    Mirrors p R (Fee.lift r : Action α) (Fee.lift r' : Action β) := by
  cases h with
  | ok hab => exact mirrors_pure hab
  | error failure => exact mirrors_throw failure

theorem mirrors_log (level level' : LogLevel) (text text' : String) :
    Mirrors p Eq (log level text) (log level' text') :=
  fun s s' hpaired => ⟨.ok rfl, p.paired_write s s' _ _ hpaired⟩

theorem Mirrors.imp {T : α → β → Prop} {act : Action α} {act' : Action β}
    (h : Mirrors p R act act') (hRT : ∀ a b, R a b → T a b) : Mirrors p T act act' :=
  fun s s' hpaired => ⟨(h s s' hpaired).1.imp hRT, (h s s' hpaired).2⟩

/-- The second of two actions matters only where the first ends with a value. -/
theorem Mirrors.bind {act : Action α} {act' : Action β} {next : α → Action α'}
    {next' : β → Action β'} (h : Mirrors p R act act')
    (hnext : ∀ a b, R a b → Mirrors p S (next a) (next' b)) :
    Mirrors p S (act >>= next) (act' >>= next') := by
  intro s s' hpaired
  obtain ⟨hresult, hafter⟩ := h s s' hpaired
  rw [outcome_bind, outcome_bind]
  rcases hact : act.outcome s with ⟨r, t⟩
  rcases hact' : act'.outcome s' with ⟨r', t'⟩
  rw [hact, hact'] at hresult hafter
  cases hresult with
  | ok hab => exact hnext _ _ hab t t' hafter
  | error failure => exact ⟨.error failure, hafter⟩

/-- What follows two actions that come to the same. -/
theorem Mirrors.bind_eq {act act' : Action α} {next : α → Action α'} {next' : α → Action β'}
    (h : Mirrors p Eq act act') (hnext : ∀ a, Mirrors p S (next a) (next' a)) :
    Mirrors p S (act >>= next) (act' >>= next') := by
  refine h.bind ?_
  rintro a _ rfl
  exact hnext a

theorem Mirrors.map {act : Action α} {act' : Action β} {f : α → α'} {g : β → β'}
    (h : Mirrors p R act act') (hfg : ∀ a b, R a b → S (f a) (g b)) :
    Mirrors p S (f <$> act) (g <$> act') := by
  rw [map_eq_pure_bind, map_eq_pure_bind]
  exact h.bind fun a b hab => mirrors_pure (hfg a b hab)

/-- Actions done for the items of two lists. -/
theorem Mirrors.mapM {act : α → Action α'} {act' : β → Action β'}
    (h : ∀ a b, R a b → Mirrors p S (act a) (act' b)) {as : List α} {bs : List β}
    (hlists : Forall₂ R as bs) : Mirrors p (Forall₂ S) (as.mapM act) (bs.mapM act') := by
  induction hlists with
  | nil => exact mirrors_pure .nil
  | cons hab _ ih =>
    rw [List.mapM_cons, List.mapM_cons]
    refine (h _ _ hab).bind fun a b hab' => ih.bind fun as bs hrest => ?_
    exact mirrors_pure (.cons hab' hrest)

/-- Actions that come to the same for every item do so for the items of a list. -/
theorem Mirrors.mapM_eq {act act' : α → Action β} (h : ∀ a, Mirrors p Eq (act a) (act' a))
    (as : List α) : Mirrors p Eq (as.mapM act) (as.mapM act') := by
  have hlists : Forall₂ Eq as as := by rw [forall₂_eq_eq_eq]
  have hstep : ∀ a a', a = a' → Mirrors p Eq (act a) (act' a') := by
    rintro a _ rfl
    exact h a
  refine (Mirrors.mapM hstep hlists).imp fun bs bs' hbs => ?_
  rwa [forall₂_eq_eq_eq] at hbs

/-- The fee of a transaction is the same if all transactions that are looked up are. -/
theorem mirrors_ofTransaction {lookup lookup' : String → Action Value}
    (h : ∀ txid, Mirrors p Eq (lookup txid) (lookup' txid)) (txid : Value) :
    Mirrors p Eq (Fee.ofTransaction lookup txid) (Fee.ofTransaction lookup' txid) := by
  have hspent : ∀ input, Mirrors p Eq (Fee.spent lookup input) (Fee.spent lookup' input) := by
    intro input
    unfold Fee.spent
    refine (mirrors_feeLift (matches_self _)).bind_eq fun txid => ?_
    exact (h txid).bind_eq fun source => mirrors_feeLift (matches_self _)
  unfold Fee.ofTransaction
  refine (mirrors_feeLift (matches_self _)).bind_eq fun txid => ?_
  refine (h txid).bind_eq fun tx => ?_
  refine (mirrors_feeLift (matches_self _)).bind_eq fun inputs => ?_
  refine (Mirrors.mapM_eq hspent inputs).bind_eq fun received => ?_
  exact (mirrors_feeLift (matches_self _)).bind_eq fun paid => mirrors_pure rfl

/-- What has been attempted goes on in any case. -/
theorem Mirrors.attempt {act : Action α} {act' : Action β} (h : Mirrors p R act act') :
    Mirrors p (Matches R) act.attempt act'.attempt :=
  fun s s' hpaired => ⟨.ok (h s s' hpaired).1, (h s s' hpaired).2⟩

end Action

end NodeLedger
