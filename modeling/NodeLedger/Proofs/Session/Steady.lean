import NodeLedger.Proofs.Session.Outcome

/-!
# Steady actions

The records of a node do not change while a report is made.  An action that only reads what does not
change gives the same value whenever it is done, and does not disturb those done after it.

A situation is what holds all the while: which sessions belong to it, and at what time.  Log lines
and looked up prices do not change it.

Main results:

- Structure `Situation`, and `Situation.atTime` for all sessions with one clock.
- Definitions `Action.Always` and `Action.Steady`: an action always ends with a value, and an action
  that has ended with a value once always does.
- Theorems `Action.Steady.bind`, `Action.Steady.mapM` and `Action.Steady.foldlM`: what is made of
  steady actions is steady.
- Definition `Action.Comes`: an action always comes to a result, which may be a failure, with
  theorems `Action.Comes.bind` and `Action.comes_mapM`.
- Theorem `Action.always_mapM` for an action done for each item of a list, and theorem
  `Action.Steady.exists_always_mapM_of_perm` for the same items in another order.
-/

namespace NodeLedger

open List

variable {α β : Type}

/-- What holds while a report is made. -/
structure Situation where
  holds : Session → Prop
  now : Int
  now_eq : ∀ s, holds s → s.now = now
  holds_write : ∀ s line, holds s → holds (s.write line)
  holds_noteValued : ∀ s time, holds s → holds (s.noteValued time)

/-- The situation of all sessions at a time. -/
def Situation.atTime (now : Int) : Situation where
  holds session := session.now = now
  now := now
  now_eq _ h := h
  holds_write _ _ h := h
  holds_noteValued _ _ h := h

namespace Action

variable {w : Situation}

/-- In a situation an action always ends with a value, and the situation goes on. -/
def Always (w : Situation) (act : Action α) (a : α) : Prop :=
  ∀ s, w.holds s → ∃ t, Ends act s a t ∧ w.holds t

/-- If an action has ended with a value once, it always does in this situation. -/
def Steady (w : Situation) (act : Action α) : Prop :=
  ∀ s a t, w.holds s → Ends act s a t → Always w act a

/-! ## Actions that always end with a value -/

/-- What always ends with a value ends with no other one. -/
theorem Always.eq_of_ends {act : Action α} {a b : α} {s t : Session} (ha : Always w act a)
    (hs : w.holds s) (hb : Ends act s b t) : b = a ∧ w.holds t := by
  obtain ⟨u, hact, hu⟩ := ha s hs
  obtain ⟨rfl, rfl⟩ := hb.unique hact
  exact ⟨rfl, hu⟩

/-- Returning a value always ends with that value. -/
theorem always_pure (a : α) : Always w (pure a) a := by
  intro s hs
  exact ⟨s, ends_pure.mpr ⟨rfl, rfl⟩, hs⟩

/-- A check that succeeds always does. -/
theorem always_lift {r : Except Failure α} {a : α} (h : r = .ok a) :
    Always w (liftM r : Action α) a := by
  intro s hs
  exact ⟨s, ends_lift.mpr ⟨h, rfl⟩, hs⟩

/-- The clock always shows the time of the situation. -/
theorem always_now : Always w now w.now := by
  intro s hs
  exact ⟨s, ends_now.mpr ⟨(w.now_eq s hs).symm, rfl⟩, hs⟩

/-- A line in the log does not change the situation. -/
theorem always_log (level : LogLevel) (text : String) : Always w (log level text) () := by
  intro s hs
  exact ⟨_, ends_log.mpr rfl, w.holds_write s _ hs⟩

/-- Nor does a price that is looked up. -/
theorem always_noteValued (time : Int) :
    Always w (modify fun session => session.noteValued time) () := by
  intro s hs
  exact ⟨_, ends_modify.mpr rfl, w.holds_noteValued s time hs⟩

/-- One step after the other always ends with the value of the last one. -/
theorem Always.bind {act : Action α} {next : α → Action β} {a : α} {b : β}
    (ha : Always w act a) (hb : Always w (next a) b) : Always w (act >>= next) b := by
  intro s hs
  obtain ⟨t, hact, ht⟩ := ha s hs
  obtain ⟨u, hnext, hu⟩ := hb t ht
  exact ⟨u, ends_bind.mpr ⟨a, t, hact, hnext⟩, hu⟩

/-- An action for each of some elements always ends with the values for each of them. -/
theorem always_mapM {act : α → Action β} {as : List α} {bs : List β}
    (h : Forall₂ (fun a b => Always w (act a) b) as bs) : Always w (as.mapM act) bs := by
  induction h with
  | nil => exact always_pure []
  | cons ha _ ih =>
    rw [List.mapM_cons]
    exact ha.bind (ih.bind (always_pure _))

/-! ## Steady actions -/

/-- What always ends with a value is steady. -/
theorem Always.steady {act : Action α} {a : α} (ha : Always w act a) : Steady w act := by
  intro s b t hs hb
  rw [(ha.eq_of_ends hs hb).1]
  exact ha

/-- The situation goes on after a steady action. -/
theorem Steady.holds {act : Action α} {a : α} {s t : Session} (hact : Steady w act)
    (hs : w.holds s) (h : Ends act s a t) : w.holds t :=
  ((hact s a t hs h).eq_of_ends hs h).2

/-- Returning a value is steady. -/
theorem steady_pure (a : α) : Steady w (pure a) :=
  (always_pure a).steady

/-- A check depends on no session, so it is steady. -/
theorem steady_lift (r : Except Failure α) : Steady w (liftM r : Action α) := by
  intro s a t _ h
  exact always_lift (ends_lift.mp h).1

/-- What never ends with a value is steady. -/
theorem steady_throw (failure : Failure) : Steady w (throw failure : Action α) := by
  intro s a t _ h
  exact absurd h not_ends_throw

/-- So is a line in the log. -/
theorem steady_log (level : LogLevel) (text : String) : Steady w (log level text) :=
  (always_log level text).steady

/-- Steady actions one after the other are steady.  The second may depend on what the first always
gives. -/
theorem Steady.bind {act : Action α} {next : α → Action β} (hact : Steady w act)
    (hnext : ∀ a, Always w act a → Steady w (next a)) : Steady w (act >>= next) := by
  intro s b u hs h
  obtain ⟨a, t, ha, hb⟩ := ends_bind.mp h
  have halways := hact s a t hs ha
  exact halways.bind (hnext a halways t b u (hact.holds hs ha) hb)

/-- What is made of the value of a steady action is steady. -/
theorem Steady.map {act : Action α} (hact : Steady w act) (f : α → β) :
    Steady w (f <$> act) := by
  rw [map_eq_pure_bind]
  exact hact.bind fun a _ => steady_pure (f a)

/-- A steady action for each of some elements is steady as a whole. -/
theorem Steady.mapM {act : α → Action β} (h : ∀ a, Steady w (act a)) (as : List α) :
    Steady w (as.mapM act) := by
  induction as with
  | nil => exact steady_pure []
  | cons a as ih =>
    rw [List.mapM_cons]
    exact (h a).bind fun b _ => ih.bind fun bs _ => steady_pure (b :: bs)

/-- So is a steady action that gathers from the elements in turn. -/
theorem Steady.foldlM {act : β → α → Action β} (h : ∀ b a, Steady w (act b a)) (as : List α)
    (b : β) : Steady w (as.foldlM act b) := by
  induction as generalizing b with
  | nil => exact steady_pure b
  | cons a as ih =>
    rw [List.foldlM_cons]
    exact (h b a).bind fun c _ => ih c

/-- Each step of a steady action done for each item of a list always ends the way it did. -/
theorem Steady.always_of_ends_mapM {act : α → Action β} (h : ∀ a, Steady w (act a))
    {as : List α} {bs : List β} {s t : Session} (hs : w.holds s)
    (hends : Ends (as.mapM act) s bs t) :
    Forall₂ (fun a b => Always w (act a) b) as bs := by
  have hsteps := hends.mapM_of_invariant (fun a b s t hs hb => (h a).holds hs hb) hs
  refine hsteps.imp ?_
  rintro a b ⟨s, t, hs, hb⟩
  exact h a s b t hs hb

/-- A steady action done for the same items in another order always gives the same values in another
order. -/
theorem Steady.exists_always_mapM_of_perm {act : α → Action β} (h : ∀ a, Steady w (act a))
    {as as' : List α} {bs : List β} {s t : Session} (hs : w.holds s)
    (hends : Ends (as.mapM act) s bs t) (hperm : as ~ as') :
    ∃ bs', Always w (as'.mapM act) bs' ∧ bs ~ bs' := by
  obtain ⟨bs', hbs', hperm'⟩ :=
    exists_forall₂_of_perm (Steady.always_of_ends_mapM h hs hends) hperm
  exact ⟨bs', always_mapM hbs', hperm'⟩

/-! ## Actions that come to a result -/

/-- In a situation an action always comes to a result, which may be a failure, and the situation
goes on. -/
def Comes (w : Situation) (act : Action α) (r : Except Failure α) : Prop :=
  ∀ s, w.holds s → ∃ t, act.outcome s = (r, t) ∧ w.holds t

/-- What always ends with a value comes to it. -/
theorem Always.comes {act : Action α} {a : α} (h : Always w act a) : Comes w act (.ok a) :=
  h

/-- Returning a value comes to it. -/
theorem comes_pure (a : α) : Comes w (pure a) (.ok a) :=
  (always_pure a).comes

/-- What needs no session comes to the same in every one. -/
theorem comes_lift (r : Except Failure α) : Comes w (liftM r : Action α) r := by
  intro s hs
  exact ⟨s, rfl, hs⟩

/-- Throwing a failure comes to that failure. -/
theorem comes_throw (failure : Failure) : Comes w (throw failure : Action α) (.error failure) :=
  comes_lift (.error failure)

/-- Two actions one after the other come to what their results do. -/
theorem Comes.bind {act : Action α} {next : α → Action β} {r : Except Failure α}
    {nextResult : α → Except Failure β} (hact : Comes w act r)
    (hnext : ∀ a, r = .ok a → Comes w (next a) (nextResult a)) :
    Comes w (act >>= next) (r >>= nextResult) := by
  intro s hs
  obtain ⟨t, houtcome, ht⟩ := hact s hs
  cases r with
  | error failure =>
    refine ⟨t, ?_, ht⟩
    rw [outcome_bind, houtcome]
    rfl
  | ok a =>
    obtain ⟨u, hresult, hu⟩ := hnext a rfl t ht
    refine ⟨u, ?_, hu⟩
    rw [outcome_bind, houtcome]
    exact hresult

/-- An action for each of some elements comes to what the checks of all of them give. -/
theorem comes_mapM {act : α → Action β} {f : α → Except Failure β}
    (h : ∀ a, Comes w (act a) (f a)) (as : List α) : Comes w (as.mapM act) (as.mapM f) := by
  induction as with
  | nil => exact comes_pure []
  | cons a as ih =>
    rw [List.mapM_cons, List.mapM_cons]
    exact (h a).bind fun b _ => ih.bind fun bs _ => comes_pure (b :: bs)

end Action
end NodeLedger
