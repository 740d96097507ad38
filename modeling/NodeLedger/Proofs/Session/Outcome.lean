import NodeLedger.Proofs.Order.Related
import NodeLedger.Session

/-!
# Outcomes of actions

An action that ends well is taken apart into its steps, each of which ends well in the session that
the step before it has left behind.

Main results:

- Theorems `bind_eq_ok_iff`, `mapM_eq_ok_iff` and `filterM_eq_ok` take apart checks that succeed.
- Theorem `Action.ends_bind` and those beside it say when an action made of others ends with a
  value, and in which session.
- Theorem `Action.Ends.mapM` says so of an action done for each item of a list, and theorem
  `Action.Ends.foldlM` of one that gathers the items.
- Theorem `mapM_eq_ok_of_perm` and theorem `exists_foldlM_eq_ok_of_perm`: whether checks succeed
  does not depend on their order.
- Theorem `Action.Ends.unique`: an action ends in one way only.
- Definition `Action.Fails`: an action does not end with a value.
-/

namespace NodeLedger

open List

variable {α β : Type}

/-! ## Checks -/

/-- Two checks one after the other succeed if both do. -/
theorem bind_eq_ok_iff {r : Except Failure α} {next : α → Except Failure β} {b : β} :
    (r >>= next) = .ok b ↔ ∃ a, r = .ok a ∧ next a = .ok b := by
  cases r with
  | error failure => simp [bind, Except.bind]
  | ok a => simp [bind, Except.bind]

/-- A check of each item of a list succeeds if it does for every one. -/
theorem mapM_eq_ok_iff {f : α → Except Failure β} {as : List α} {bs : List β} :
    as.mapM f = .ok bs ↔ Forall₂ (fun a b => f a = .ok b) as bs := by
  induction as generalizing bs with
  | nil => cases bs <;> simp [pure, Except.pure]
  | cons a as ih =>
    rw [List.mapM_cons, bind_eq_ok_iff, forall₂_cons_left_iff]
    constructor
    · rintro ⟨b, hb, hnext⟩
      obtain ⟨rest, hrest, hbs⟩ := bind_eq_ok_iff.mp hnext
      cases hbs
      exact ⟨b, rest, hb, ih.mp hrest, rfl⟩
    · rintro ⟨b, rest, hb, hrest, rfl⟩
      exact ⟨b, hb, bind_eq_ok_iff.mpr ⟨rest, ih.mpr hrest, rfl⟩⟩

/-- Checks that succeed just for good items, and give what a function gives. -/
theorem mapM_eq_ok_iff_forall {f : α → Except Failure β} {good : α → Prop}
    {g : α → β} (h : ∀ a b, f a = .ok b ↔ good a ∧ b = g a) {as : List α} {bs : List β} :
    as.mapM f = .ok bs ↔ (∀ a ∈ as, good a) ∧ bs = as.map g := by
  induction as generalizing bs with
  | nil =>
    rw [mapM_eq_ok_iff, forall₂_nil_left_iff]
    simp
  | cons a as ih =>
    rw [mapM_eq_ok_iff, forall₂_cons_left_iff, List.forall_mem_cons, List.map_cons]
    constructor
    · rintro ⟨b, rest, hb, hrest, rfl⟩
      obtain ⟨hgood, rfl⟩ := (h a b).mp hb
      obtain ⟨hall, rfl⟩ := ih.mp (mapM_eq_ok_iff.mpr hrest)
      exact ⟨⟨hgood, hall⟩, rfl⟩
    · rintro ⟨⟨hgood, hall⟩, rfl⟩
      have hrest := mapM_eq_ok_iff.mp (ih.mpr ⟨hall, rfl⟩)
      exact ⟨g a, as.map g, (h a _).mpr ⟨hgood, rfl⟩, hrest, rfl⟩

/-- What checks give is what a function gives that agrees with every one that succeeds. -/
theorem eq_map_of_mapM {f : α → Except Failure β} {g : α → β} (hfg : ∀ a b, f a = .ok b → b = g a)
    {as : List α} {bs : List β} (h : as.mapM f = .ok bs) : bs = as.map g := by
  have hsame : as.map g = bs.map id :=
    map_eq_map_of_forall₂ (mapM_eq_ok_iff.mp h) fun a _ b hab => (hfg a b hab).symm
  rw [hsame, List.map_id]

/-- A check of the same items in another order gives the same in another order. -/
theorem mapM_eq_ok_of_perm {f : α → Except Failure β} {as as' : List α} {bs : List β}
    (h : as.mapM f = .ok bs) (hperm : as ~ as') : ∃ bs', as'.mapM f = .ok bs' ∧ bs ~ bs' := by
  obtain ⟨bs', hrelated, hperm'⟩ := exists_forall₂_of_perm (mapM_eq_ok_iff.mp h) hperm
  exact ⟨bs', mapM_eq_ok_iff.mpr hrelated, hperm'⟩

section Checks

variable {p : α → Except Failure Bool} {as : List α}

/-- If some item is found to pass a check, there is one that does. -/
theorem exists_of_anyM (h : as.anyM p = .ok true) : ∃ a ∈ as, p a = .ok true := by
  induction as with
  | nil => cases h
  | cons a as ih =>
    rw [List.anyM, bind_eq_ok_iff] at h
    obtain ⟨passed, hpassed, h⟩ := h
    cases passed with
    | true => exact ⟨a, List.mem_cons_self, hpassed⟩
    | false =>
      obtain ⟨b, hb, hpass⟩ := ih h
      exact ⟨b, List.mem_cons_of_mem a hb, hpass⟩

/-- The items that are kept pass the check, and stand in the order in which they stood. -/
theorem filterM_eq_ok {kept : List α} (h : as.filterM p = .ok kept) :
    kept.Sublist as ∧ ∀ a ∈ kept, p a = .ok true := by
  have hfrom : ∀ (as before after : List α), as.filterAuxM p before = .ok after →
      ∃ found : List α, after = found.reverse ++ before ∧ found.Sublist as ∧
        ∀ a ∈ found, p a = .ok true := by
    intro as
    induction as with
    | nil =>
      rintro before _ ⟨⟩
      exact ⟨[], rfl, List.Sublist.slnil, by simp⟩
    | cons a as ih =>
      intro before after h
      rw [List.filterAuxM] at h
      obtain ⟨passed, hpassed, h⟩ := bind_eq_ok_iff.mp h
      obtain ⟨found, rfl, hsublist, hpass⟩ := ih _ _ h
      cases passed with
      | true =>
        refine ⟨a :: found, by simp, hsublist.cons_cons a, ?_⟩
        exact List.forall_mem_cons.mpr ⟨hpassed, hpass⟩
      | false => exact ⟨found, rfl, hsublist.cons a, hpass⟩
  obtain ⟨after, hafter, h⟩ := bind_eq_ok_iff.mp h
  cases h
  obtain ⟨found, rfl, hsublist, hpass⟩ := hfrom as [] after hafter
  simpa using ⟨hsublist, hpass⟩

end Checks

/-- Gathering the items of a list succeeds if it does for each of them, as long as what has been
gathered does not matter for that. -/
theorem exists_foldlM_eq_ok_iff {f : β → α → Except Failure β} {good : α → Prop}
    (h : ∀ b a, (∃ c, f b a = .ok c) ↔ good a) {as : List α} {b : β} :
    (∃ c, as.foldlM f b = .ok c) ↔ ∀ a ∈ as, good a := by
  induction as generalizing b with
  | nil => simp [pure, Except.pure]
  | cons a as ih =>
    rw [List.forall_mem_cons, ← h b a, List.foldlM_cons]
    simp only [bind_eq_ok_iff]
    constructor
    · rintro ⟨d, c, hc, hd⟩
      exact ⟨⟨c, hc⟩, ih.mp ⟨d, hd⟩⟩
    · rintro ⟨⟨c, hc⟩, hrest⟩
      obtain ⟨d, hd⟩ := ih.mpr hrest
      exact ⟨d, c, hc, hd⟩

/-- So it succeeds in any order of the items, whatever has been gathered before. -/
theorem exists_foldlM_eq_ok_of_perm {f : β → α → Except Failure β} {good : α → Prop}
    (h : ∀ b a, (∃ c, f b a = .ok c) ↔ good a) {as as' : List α} {b c : β}
    (hfold : as.foldlM f b = .ok c) (hperm : as ~ as') (b' : β) :
    ∃ c', as'.foldlM f b' = .ok c' := by
  have hgood := (exists_foldlM_eq_ok_iff h).mp ⟨c, hfold⟩
  refine (exists_foldlM_eq_ok_iff h).mpr ?_
  intro a ha
  exact hgood a (hperm.mem_iff.mpr ha)

namespace Action

/-- What an action begun in a session comes to, and the session that it leaves behind. -/
def outcome (act : Action α) (session : Session) : Except Failure α × Session :=
  act.run.run session

/-- An action begun in one session ends with a value and leaves another session behind. -/
def Ends (act : Action α) (before : Session) (a : α) (after : Session) : Prop :=
  act.outcome before = (.ok a, after)

/-- An action begun in a session fails. -/
def Fails (act : Action α) (session : Session) : Prop :=
  ∃ failure, (act.outcome session).1 = .error failure

/-- An action begun in a session ends in one way only. -/
theorem Ends.unique {act : Action α} {s t u : Session} {a b : α}
    (ha : Ends act s a t) (hb : Ends act s b u) : a = b ∧ t = u := by
  cases ha.symm.trans hb
  exact ⟨rfl, rfl⟩

/-- An action ends with what its outcome is. -/
theorem ends_of_outcome {act : Action α} {s : Session} {a : α} (h : (act.outcome s).1 = .ok a) :
    Ends act s a (act.outcome s).2 :=
  Prod.ext h rfl

/-- An action ends with what its outcome holds. -/
theorem exists_ends_of_outcome {act : Action α} {s : Session} {f : α → β} {b : β}
    (h : (act.outcome s).1.toOption.map f = some b) :
    ∃ a, Ends act s a (act.outcome s).2 ∧ f a = b := by
  cases hresult : (act.outcome s).1 with
  | error failure =>
    rw [hresult] at h
    cases h
  | ok a =>
    rw [hresult] at h
    exact ⟨a, ends_of_outcome hresult, Option.some.inj h⟩

/-- An action fails if it does not end with a value. -/
theorem fails_iff {act : Action α} {s : Session} : Fails act s ↔ ¬ ∃ a t, Ends act s a t := by
  unfold Fails Ends
  rcases act.outcome s with ⟨failure | a, t⟩
  · simp
  · simp

/-! ## Single steps -/

@[simp] theorem ends_pure {a b : α} {s t : Session} :
    Ends (pure a : Action α) s b t ↔ b = a ∧ t = s := by
  constructor
  · intro h
    cases h
    exact ⟨rfl, rfl⟩
  · rintro ⟨rfl, rfl⟩
    rfl

/-- What needs no session leaves it as it is. -/
@[simp] theorem ends_lift {r : Except Failure α} {s t : Session} {a : α} :
    Ends (liftM r : Action α) s a t ↔ r = .ok a ∧ t = s := by
  constructor
  · intro h
    cases h
    exact ⟨rfl, rfl⟩
  · rintro ⟨rfl, rfl⟩
    rfl

/-- What follows a check that succeeds. -/
theorem lift_ok_bind (a : α) (next : α → Action β) :
    (liftM (.ok a : Except Failure α) : Action α) >>= next = next a :=
  rfl

@[simp] theorem not_ends_throw {failure : Failure} {s t : Session} {a : α} :
    ¬ Ends (throw failure : Action α) s a t := by
  intro h
  cases h

@[simp] theorem ends_modify {change : Session → Session} {s t : Session} {a : Unit} :
    Ends (modify change : Action Unit) s a t ↔ t = change s := by
  constructor
  · intro h
    cases h
    rfl
  · rintro rfl
    rfl

@[simp] theorem ends_log {level : LogLevel} {text : String} {s t : Session} {a : Unit} :
    Ends (log level text) s a t ↔ t = s.write ⟨level, text⟩ :=
  ends_modify

@[simp] theorem ends_now {s t : Session} {time : Int} :
    Ends now s time t ↔ time = s.now ∧ t = s := by
  constructor
  · intro h
    cases h
    exact ⟨rfl, rfl⟩
  · rintro ⟨rfl, rfl⟩
    rfl

/-- An action that is attempted always ends well, with what it has come to. -/
@[simp] theorem ends_attempt {act : Action α} {s t : Session} {r : Except Failure α} :
    Ends (attempt act) s r t ↔ act.outcome s = (r, t) := by
  have houtcome : (attempt act).outcome s = (.ok (act.outcome s).1, (act.outcome s).2) := rfl
  unfold Ends
  rw [houtcome, Prod.ext_iff, Prod.ext_iff, Except.ok.injEq]

/-! ## Steps one after the other -/

/-- The second of two actions is done in the session that the first leaves behind, and not at all if
the first fails. -/
theorem outcome_bind (act : Action α) (next : α → Action β) (s : Session) :
    (act >>= next).outcome s =
      match act.outcome s with
      | (.ok a, t) => (next a).outcome t
      | (.error failure, t) => (.error failure, t) := by
  simp only [outcome, bind, ExceptT.bind, ExceptT.mk, ExceptT.run, StateT.bind, StateT.run]
  rcases act s with ⟨failure | a, t⟩ <;> rfl

/-- The second of two actions goes on in the session that the first leaves behind. -/
@[simp] theorem ends_bind {act : Action α} {next : α → Action β} {s u : Session} {b : β} :
    Ends (act >>= next) s b u ↔ ∃ a t, Ends act s a t ∧ Ends (next a) t b u := by
  unfold Ends
  rw [outcome_bind]
  rcases act.outcome s with ⟨failure | a, t⟩
  · simp
  · constructor
    · intro h
      exact ⟨a, t, rfl, h⟩
    · rintro ⟨a', t', hact, h⟩
      cases hact
      exact h

/-- What follows a check, in the same session. -/
theorem ends_lift_bind {r : Except Failure α} {next : α → Action β} {s t : Session} {b : β} :
    Ends (liftM r >>= next) s b t ↔ ∃ a, r = .ok a ∧ Ends (next a) s b t := by
  simp only [ends_bind, ends_lift]
  constructor
  · rintro ⟨a, _, ⟨hr, rfl⟩, hnext⟩
    exact ⟨a, hr, hnext⟩
  · rintro ⟨a, hr, hnext⟩
    exact ⟨a, s, ⟨hr, rfl⟩, hnext⟩

/-- What is made of the value of an action. -/
theorem ends_bind_pure {act : Action α} {f : α → β} {s t : Session} {b : β} :
    Ends (act >>= fun a => pure (f a)) s b t ↔ ∃ a, Ends act s a t ∧ b = f a := by
  simp only [ends_bind, ends_pure]
  constructor
  · rintro ⟨a, _, hact, hb, rfl⟩
    exact ⟨a, hact, hb⟩
  · rintro ⟨a, hact, hb⟩
    exact ⟨a, t, hact, hb, rfl⟩

/-- An action done for each item of a list ends with one value for each; what each step keeps holds
before all of them. -/
theorem Ends.mapM_of_invariant {act : α → Action β} {holds : Session → Prop}
    (hkeep : ∀ a b s t, holds s → Ends (act a) s b t → holds t) {as : List α} {bs : List β}
    {s t : Session} (hs : holds s) (h : Ends (as.mapM act) s bs t) :
    Forall₂ (fun a b => ∃ s t, holds s ∧ Ends (act a) s b t) as bs := by
  induction as generalizing s bs with
  | nil =>
    rw [List.mapM_nil, ends_pure] at h
    rw [h.1]
    exact Forall₂.nil
  | cons a as ih =>
    rw [List.mapM_cons] at h
    simp only [ends_bind, ends_pure] at h
    obtain ⟨b, u, hb, rest, v, hrest, rfl, rfl⟩ := h
    exact Forall₂.cons ⟨s, u, hs, hb⟩ (ih (hkeep a b s u hs hb) hrest)

/-- An action done for each item of a list ends with one value for each. -/
theorem Ends.mapM {act : α → Action β} {as : List α} {bs : List β} {s t : Session}
    (h : Ends (as.mapM act) s bs t) :
    Forall₂ (fun a b => ∃ s t, Ends (act a) s b t) as bs := by
  have hsteps := h.mapM_of_invariant (fun _ _ _ _ _ _ => trivial) trivial
  refine hsteps.imp ?_
  rintro a b ⟨s, t, -, hb⟩
  exact ⟨s, t, hb⟩

/-- An action that gathers the items of a list keeps what each step keeps of the items gathered so
far, of what has been made of them and of the session. -/
theorem Ends.foldlM {act : β → α → Action β} (holds : List α → β → Session → Prop)
    (hstep : ∀ done a b c s t, holds done b s → Ends (act b a) s c t → holds (done ++ [a]) c t)
    {as : List α} {b c : β} {s t : Session} (hs : holds [] b s)
    (h : Ends (as.foldlM act b) s c t) : holds as c t := by
  have hfrom : ∀ rest done b s, holds done b s → Ends (List.foldlM act b rest) s c t →
      holds (done ++ rest) c t := by
    intro rest
    induction rest with
    | nil =>
      intro done b s hs h
      rw [List.foldlM_nil, ends_pure] at h
      rwa [List.append_nil, h.1, h.2]
    | cons a rest ih =>
      intro done b s hs h
      rw [List.foldlM_cons] at h
      obtain ⟨next, u, hnext, h⟩ := ends_bind.mp h
      rw [List.append_cons]
      exact ih (done ++ [a]) next u (hstep done a b next s u hs hnext) h
  exact hfrom as [] b s hs h

/-- An action that leaves the session as it is for each item of a list does so for all of them. -/
theorem ends_mapM_of_forall₂ {act : α → Action β} {as : List α} {bs : List β} {s : Session}
    (h : Forall₂ (fun a b => Ends (act a) s b s) as bs) : Ends (as.mapM act) s bs s := by
  induction h with
  | nil => exact ends_pure.mpr ⟨rfl, rfl⟩
  | cons hab _ ih =>
    rw [List.mapM_cons]
    exact ends_bind.mpr ⟨_, s, hab, ends_bind.mpr ⟨_, s, ih, ends_pure.mpr ⟨rfl, rfl⟩⟩⟩

/-- Checks of the items of a list need no session. -/
@[simp] theorem ends_mapM_lift {f : α → Except Failure β} {as : List α} {bs : List β}
    {s t : Session} :
    Ends (as.mapM fun a => (liftM (f a) : Action β)) s bs t ↔ as.mapM f = .ok bs ∧ t = s := by
  induction as generalizing s t bs with
  | nil =>
    rw [List.mapM_nil, ends_pure, List.mapM_nil]
    constructor
    · rintro ⟨rfl, rfl⟩
      exact ⟨rfl, rfl⟩
    · rintro ⟨hnil, rfl⟩
      cases hnil
      exact ⟨rfl, rfl⟩
  | cons a as ih =>
    rw [List.mapM_cons, List.mapM_cons, bind_eq_ok_iff]
    simp only [ends_bind, ends_lift, ends_pure, ih, bind_eq_ok_iff]
    constructor
    · rintro ⟨b, _, ⟨hb, rfl⟩, rest, _, ⟨hrest, rfl⟩, rfl, rfl⟩
      exact ⟨⟨b, hb, rest, hrest, rfl⟩, rfl⟩
    · rintro ⟨⟨b, hb, rest, hrest, hbs⟩, rfl⟩
      cases hbs
      exact ⟨b, _, ⟨hb, rfl⟩, rest, _, ⟨hrest, rfl⟩, rfl, rfl⟩

/-- Nor does what is gathered from the items of a list without one. -/
@[simp] theorem ends_foldlM_lift {f : β → α → Except Failure β} {as : List α} {b c : β}
    {s t : Session} :
    Ends (as.foldlM (fun b a => (liftM (f b a) : Action β)) b) s c t ↔
      as.foldlM f b = .ok c ∧ t = s := by
  induction as generalizing s b with
  | nil =>
    rw [List.foldlM_nil, ends_pure, List.foldlM_nil]
    constructor
    · rintro ⟨rfl, rfl⟩
      exact ⟨rfl, rfl⟩
    · rintro ⟨hnil, rfl⟩
      cases hnil
      exact ⟨rfl, rfl⟩
  | cons a as ih =>
    rw [List.foldlM_cons, List.foldlM_cons, bind_eq_ok_iff]
    simp only [ends_bind, ends_lift, ih]
    constructor
    · rintro ⟨d, _, ⟨hd, rfl⟩, hc, rfl⟩
      exact ⟨⟨d, hd, hc⟩, rfl⟩
    · rintro ⟨⟨d, hd, hc⟩, rfl⟩
      exact ⟨d, _, ⟨hd, rfl⟩, hc, rfl⟩

end Action

/-- What each step of gathering the items of a list keeps of the items gathered so far and of what
has been made of them holds of all items. -/
theorem holds_of_foldlM (holds : List α → β → Prop) {f : β → α → Except Failure β}
    (hstep : ∀ done a b c, holds done b → f b a = .ok c → holds (done ++ [a]) c) {as : List α}
    {b c : β} (hb : holds [] b) (h : as.foldlM f b = .ok c) : holds as c := by
  have hends : Action.Ends (as.foldlM (fun b a => (liftM (f b a) : Action β)) b) {} c {} :=
    Action.ends_foldlM_lift.mpr ⟨h, rfl⟩
  refine hends.foldlM (fun done b _ => holds done b) ?_ hb
  intro done a b c _ _ hold hnext
  exact hstep done a b c hold (Action.ends_lift.mp hnext).1

end NodeLedger
