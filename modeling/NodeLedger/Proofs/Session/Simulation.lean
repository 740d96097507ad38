import NodeLedger.Proofs.Session.Frame

/-!
# Actions that do the same in sessions that are alike

Two runs are compared step by step.  The sessions in which they take place are alike in some
respect, for instance in all that concerns the node, and stay so; what the one gives is related to
what the other gives.

Main results:

- Structure `Likeness`: what is kept alike.  `Likeness.same` is for sessions that are the same, and
  `Likeness.inside` for those with the same inside.
- Definition `Action.Simulates`: where one action ends with a value, another one ends with a related
  value in any session that is alike.
- Theorems `Action.Simulates.bind`, `Action.Simulates.mapM` and `Action.Simulates.foldlM`: so do
  actions that are made of such.
- Theorem `Action.Inward.simulates`: what stays inside a session does the same wherever the inside
  is the same.
-/

namespace NodeLedger

open List

variable {α α' β β' : Type}

/-- What two sessions have in common all the while. -/
structure Likeness where
  alike : Session → Session → Prop
  now_eq : ∀ s t, alike s t → s.now = t.now
  alike_write : ∀ s t line, alike s t → alike (s.write line) (t.write line)
  alike_noteValued : ∀ s t time, alike s t → alike (s.noteValued time) (t.noteValued time)

namespace Likeness

/-- Sessions that are the same. -/
def same : Likeness where
  alike s t := s = t
  now_eq _ _ h := congrArg Session.now h
  alike_write _ _ line h := congrArg (Session.write · line) h
  alike_noteValued _ _ time h := congrArg (Session.noteValued · time) h

/-- Sessions with the same inside, the second of which has a given outside. -/
def inside (outside : Session) : Likeness where
  alike s t := s.inside = t.inside ∧ t.outside = outside
  now_eq _ _ h := Session.now_eq_of_inside h.1
  alike_write _ _ _ h := h
  alike_noteValued _ _ _ h := h

end Likeness

namespace Action

variable {l : Likeness} {R : α → β → Prop}

/-- Where an action ends with a value, another one ends with a related value in any session that is
alike, and the sessions that they leave behind are alike too. -/
def Simulates (l : Likeness) (R : α → β → Prop) (act : Action α) (act' : Action β) : Prop :=
  ∀ s s' a t, l.alike s s' → Ends act s a t →
    ∃ b t', Ends act' s' b t' ∧ R a b ∧ l.alike t t'

/-! ## Single steps -/

theorem simulates_pure {a : α} {b : β} (h : R a b) : Simulates l R (pure a) (pure b) := by
  intro s s' _ t hs hact
  obtain ⟨rfl, rfl⟩ := ends_pure.mp hact
  exact ⟨b, s', ends_pure.mpr ⟨rfl, rfl⟩, h, hs⟩

theorem simulates_lift {r : Except Failure α} {r' : Except Failure β}
    (h : ∀ a, r = .ok a → ∃ b, r' = .ok b ∧ R a b) :
    Simulates l R (liftM r : Action α) (liftM r' : Action β) := by
  intro s s' a t hs hact
  obtain ⟨hr, rfl⟩ := ends_lift.mp hact
  obtain ⟨b, hr', hab⟩ := h a hr
  exact ⟨b, s', ends_lift.mpr ⟨hr', rfl⟩, hab, hs⟩

/-- A check that does not depend on the session does the same in both. -/
theorem simulates_check (r : Except Failure α) :
    Simulates l Eq (liftM r : Action α) (liftM r) :=
  simulates_lift fun a h => ⟨a, h, rfl⟩

theorem simulates_throw (failure : Failure) (act' : Action β) :
    Simulates l R (throw failure : Action α) act' := by
  intro s s' a t _ hact
  exact absurd hact not_ends_throw

theorem simulates_now : Simulates l Eq now now := by
  intro s s' time t hs hact
  obtain ⟨rfl, rfl⟩ := ends_now.mp hact
  exact ⟨t.now, s', ends_now.mpr ⟨l.now_eq t s' hs, rfl⟩, rfl, hs⟩

theorem simulates_log (level : LogLevel) (text : String) :
    Simulates l Eq (log level text) (log level text) := by
  intro s s' _ t hs hact
  rw [ends_log] at hact
  rw [hact]
  exact ⟨(), _, ends_log.mpr rfl, rfl, l.alike_write s s' _ hs⟩

/-! ## Steps one after the other -/

theorem Simulates.bind {S : α' → β' → Prop} {act : Action α} {act' : Action β}
    {next : α → Action α'} {next' : β → Action β'} (h : Simulates l R act act')
    (hnext : ∀ a b, R a b → Simulates l S (next a) (next' b)) :
    Simulates l S (act >>= next) (act' >>= next') := by
  intro s s' c u hs hrun
  obtain ⟨a, t, hact, hrun⟩ := ends_bind.mp hrun
  obtain ⟨b, t', hact', hab, ht⟩ := h s s' a t hs hact
  obtain ⟨d, u', hrun', hcd, hu⟩ := hnext a b hab t t' c u ht hrun
  exact ⟨d, u', ends_bind.mpr ⟨b, t', hact', hrun'⟩, hcd, hu⟩

theorem Simulates.map {S : α' → β' → Prop} {act : Action α} {act' : Action β} {f : α → α'}
    {g : β → β'} (h : Simulates l R act act') (hfg : ∀ a b, R a b → S (f a) (g b)) :
    Simulates l S (f <$> act) (g <$> act') := by
  rw [map_eq_pure_bind, map_eq_pure_bind]
  exact h.bind fun a b hab => simulates_pure (hfg a b hab)

theorem Simulates.imp {S : α → β → Prop} {act : Action α} {act' : Action β}
    (h : Simulates l R act act') (hRS : ∀ a b, R a b → S a b) : Simulates l S act act' := by
  intro s s' a t hs hact
  obtain ⟨b, t', hact', hab, ht⟩ := h s s' a t hs hact
  exact ⟨b, t', hact', hRS a b hab, ht⟩

/-- Actions done for each item of a list give related values. -/
theorem Simulates.mapM {S : β → β' → Prop} {act : α → Action β} {act' : α → Action β'}
    (h : ∀ a, Simulates l S (act a) (act' a)) (as : List α) :
    Simulates l (Forall₂ S) (as.mapM act) (as.mapM act') := by
  induction as with
  | nil => exact simulates_pure .nil
  | cons a as ih =>
    rw [List.mapM_cons, List.mapM_cons]
    refine (h a).bind fun b b' hb => ih.bind fun bs bs' hbs => ?_
    exact simulates_pure (.cons hb hbs)

/-- An action that does the same for every item of a list does the same for all of them. -/
theorem Simulates.mapM_same {act : α → Action β} (h : ∀ a, Simulates l Eq (act a) (act a))
    (as : List α) : Simulates l Eq (as.mapM act) (as.mapM act) := by
  refine (Simulates.mapM h as).imp fun bs cs hbs => ?_
  rwa [forall₂_eq_eq_eq] at hbs

/-- What is gathered from the items of a list is the same if each step does the same. -/
theorem Simulates.foldlM {act : β → α → Action β} (h : ∀ b a, Simulates l Eq (act b a) (act b a))
    (as : List α) (b : β) : Simulates l Eq (as.foldlM act b) (as.foldlM act b) := by
  induction as generalizing b with
  | nil => exact simulates_pure rfl
  | cons a as ih =>
    rw [List.foldlM_cons]
    refine (h b a).bind ?_
    rintro c _ rfl
    exact ih c

/-! ## Actions that do the same -/

/-- In sessions that are the same every action does the same. -/
theorem simulates_same (act : Action α) : Simulates .same Eq act act := by
  rintro s _ a t rfl hact
  exact ⟨a, t, hact, rfl, rfl⟩

/-- An action that stays inside does the same in sessions with the same inside. -/
theorem Inward.simulates {act : Action α} (h : Inward act) (outside : Session) :
    Simulates (.inside outside) Eq act act := by
  rintro s s' a t ⟨hinside, houtside⟩ hact
  obtain ⟨hvalue, hinside'⟩ := h.same s s' hinside
  rw [hact] at hvalue hinside'
  exact ⟨a, _, ends_of_outcome hvalue.symm, rfl, hinside', (h.keeps s').trans houtside⟩

end Action

end NodeLedger
