import NodeLedger.Proofs.Session.Outcome

/-!
# What actions leave alone

An action sees a part of its session and changes a part of it.  The price services know nothing of
the node, and the node knows nothing of the price services; so the order in which the two are asked,
and whether one of them is asked at all, does not matter to the other.

Main results:

- Definition `Action.Keeps`: an action leaves alone what a view shows of the session, whether it
  ends with a value or fails.  Theorems `Action.Keeps.bind` and `Action.Keeps.attempt`: so does
  what is made of such actions.  Theorem `Http.keeps_fetch`: what a request leaves alone.
- Definitions `Session.inside` and `Session.outside`: what concerns the node, and the rest.
- Structure `Action.Inward`: an action sees only the inside of a session, and leaves alone the
  outside.  Theorem `Action.Inward.bind` and those beside it.
- Theorem `Action.outcome_bind_congr`: actions that go on alike come to the same.
-/

namespace NodeLedger

variable {α β σ : Type}

namespace Action

/-! ## Outcomes of single steps -/

/-- Returning a value leaves the session as it is. -/
@[simp] theorem outcome_pure (a : α) (s : Session) : (pure a : Action α).outcome s = (.ok a, s) :=
  rfl

/-- So does throwing a failure. -/
@[simp] theorem outcome_throw (failure : Failure) (s : Session) :
    (throw failure : Action α).outcome s = (.error failure, s) :=
  rfl

/-- So does a check. -/
@[simp] theorem outcome_lift (r : Except Failure α) (s : Session) :
    (liftM r : Action α).outcome s = (r, s) :=
  rfl

/-- Reading the session gives it, and leaves it as it is. -/
@[simp] theorem outcome_get (s : Session) : (get : Action Session).outcome s = (.ok s, s) :=
  rfl

/-- Changing the session does nothing but that. -/
@[simp] theorem outcome_modify (change : Session → Session) (s : Session) :
    (modify change : Action Unit).outcome s = (.ok (), change s) :=
  rfl

/-- An action that is attempted leaves behind what it would leave behind by itself. -/
@[simp] theorem outcome_attempt (act : Action α) (s : Session) :
    (attempt act).outcome s = (.ok (act.outcome s).1, (act.outcome s).2) :=
  rfl

/-- Two actions after the same first one come to the same if they do wherever the first one ends. -/
theorem outcome_bind_congr {act : Action α} {next next' : α → Action β} {s : Session}
    (h : ∀ a t, Ends act s a t → (next a).outcome t = (next' a).outcome t) :
    (act >>= next).outcome s = (act >>= next').outcome s := by
  rw [outcome_bind, outcome_bind]
  rcases hact : act.outcome s with ⟨failure | a, t⟩
  · rfl
  · exact h a t hact

/-- Two actions that come to the same do so with whatever follows. -/
theorem outcome_bind_of_eq {act act' : Action α} {next : α → Action β} {s : Session}
    (h : act.outcome s = act'.outcome s) :
    (act >>= next).outcome s = (act' >>= next).outcome s := by
  rw [outcome_bind, outcome_bind, h]

/-! ## Views that are kept -/

/-- An action leaves alone what a view shows of the session, however it ends. -/
def Keeps (view : Session → σ) (act : Action α) : Prop :=
  ∀ s, view (act.outcome s).2 = view s

variable {view : Session → σ}

/-- What is kept is the same in a session that is left behind. -/
theorem Keeps.of_ends {act : Action α} (h : Keeps view act) {s t : Session} {a : α}
    (hact : Ends act s a t) : view t = view s := by
  have hkept := h s
  rw [hact] at hkept
  exact hkept

/-- Returning a value keeps every view. -/
theorem keeps_pure (a : α) : Keeps view (pure a) :=
  fun _ => rfl

/-- So does throwing a failure. -/
theorem keeps_throw (failure : Failure) : Keeps view (throw failure : Action α) :=
  fun _ => rfl

/-- So does a check. -/
theorem keeps_lift (r : Except Failure α) : Keeps view (liftM r : Action α) :=
  fun _ => rfl

/-- So does reading the session. -/
theorem keeps_get : Keeps view (get : Action Session) :=
  fun _ => rfl

/-- A change keeps the views that it leaves alone. -/
theorem keeps_modify {change : Session → Session} (h : ∀ s, view (change s) = view s) :
    Keeps view (modify change : Action Unit) :=
  h

/-- What is kept by two actions is kept by one after the other.  The second has to keep it only for
values that the first can end with. -/
theorem Keeps.bind_of_ends {act : Action α} {next : α → Action β} (hact : Keeps view act)
    (hnext : ∀ a s t, Ends act s a t → Keeps view (next a)) : Keeps view (act >>= next) := by
  intro s
  have hs := hact s
  rw [outcome_bind]
  rcases h : act.outcome s with ⟨failure | a, t⟩
  · rw [h] at hs
    exact hs
  · rw [h] at hs
    exact (hnext a s t h t).trans hs

/-- A view that all steps keep is kept by the whole. -/
theorem Keeps.bind {act : Action α} {next : α → Action β} (hact : Keeps view act)
    (hnext : ∀ a, Keeps view (next a)) : Keeps view (act >>= next) :=
  hact.bind_of_ends fun a _ _ _ => hnext a

/-- What follows a check has to keep a view only where the check succeeds. -/
theorem keeps_lift_bind {r : Except Failure α} {next : α → Action β}
    (h : ∀ a, r = .ok a → Keeps view (next a)) : Keeps view (liftM r >>= next) :=
  (keeps_lift r).bind_of_ends fun a _ _ hends => h a (ends_lift.mp hends).1

/-- It is kept as well if failures are caught. -/
theorem Keeps.attempt {act : Action α} (hact : Keeps view act) : Keeps view act.attempt :=
  hact

end Action

namespace Http

open NodeLedger.Action

/-- A request is sent, and what comes of it is the next outcome. -/
theorem outcome_fetch (url : String) (params : Value) (timeout : Int) (s : Session) :
    (fetch url params timeout).outcome s = (s.replies.next.result,
      { s with
        requests := s.requests ++ [⟨url, params, timeout, s.shutdown⟩]
        replies := s.replies.drop 1
        shutdown := s.shutdown || s.replies.next.interrupts }) :=
  rfl

/-- A request changes only what has been asked, which outcomes are left, and whether a shutdown is
requested. -/
theorem keeps_fetch {view : Session → σ}
    (h : ∀ s requests replies shutdown, view { s with requests, replies, shutdown } = view s)
    (url : String) (params : Value) (timeout : Int) : Keeps view (fetch url params timeout) := by
  intro s
  rw [outcome_fetch]
  exact h s _ _ _

end Http

/-! ## Inside and outside -/

namespace Session

/-- The inside of a session: what can be seen of the node, what is remembered of it, and the
time. -/
def inside (session : Session) : Session :=
  { now := session.now, node := session.node, cache := session.cache }

/-- The outside of a session: all but what has been asked of the node, and what has been noted on
the way. -/
def outside (session : Session) : Session :=
  { session with log := [], calls := [], cache := {}, valued := [] }

/-- The log is no part of the inside of a session, -/
@[simp] theorem inside_write (session : Session) (line : LogLine) :
    (session.write line).inside = session.inside :=
  rfl

/-- nor of the outside. -/
@[simp] theorem outside_write (session : Session) (line : LogLine) :
    (session.write line).outside = session.outside :=
  rfl

@[simp] theorem inside_noteValued (session : Session) (time : Int) :
    (session.noteValued time).inside = session.inside :=
  rfl

@[simp] theorem outside_noteValued (session : Session) (time : Int) :
    (session.noteValued time).outside = session.outside :=
  rfl

variable {s t : Session}

/-- The clock is seen from the inside. -/
theorem now_eq_of_inside (h : s.inside = t.inside) : s.now = t.now := by
  injection h

/-- So is the node. -/
theorem node_eq_of_inside (h : s.inside = t.inside) : s.node = t.node := by
  injection h

/-- So is what is remembered of it. -/
theorem cache_eq_of_inside (h : s.inside = t.inside) : s.cache = t.cache := by
  injection h

/-- The clock is seen from the outside as well. -/
theorem now_eq_of_outside (h : s.outside = t.outside) : s.now = t.now := by
  injection h

/-- So is the node. -/
theorem node_eq_of_outside (h : s.outside = t.outside) : s.node = t.node := by
  injection h

/-- So are the requests to price services. -/
theorem requests_eq_of_outside (h : s.outside = t.outside) : s.requests = t.requests := by
  injection h

end Session

namespace Action

/-! ## Actions that stay inside -/

/-- An action sees only the inside of its session: in sessions with the same inside it comes to the
same and leaves the same inside behind.  It leaves alone the outside. -/
structure Inward (act : Action α) : Prop where
  keeps : Keeps Session.outside act
  same : ∀ s t, s.inside = t.inside →
    (act.outcome s).1 = (act.outcome t).1 ∧
      (act.outcome s).2.inside = (act.outcome t).2.inside

/-- Returning a value stays inside. -/
theorem inward_pure (a : α) : Inward (pure a) where
  keeps := keeps_pure a
  same _ _ h := ⟨rfl, h⟩

/-- So does throwing a failure. -/
theorem inward_throw (failure : Failure) : Inward (throw failure : Action α) where
  keeps := keeps_throw failure
  same _ _ h := ⟨rfl, h⟩

/-- So does a check. -/
theorem inward_lift (r : Except Failure α) : Inward (liftM r : Action α) where
  keeps := keeps_lift r
  same _ _ h := ⟨rfl, h⟩

/-- So does a line in the log. -/
theorem inward_log (level : LogLevel) (text : String) : Inward (log level text) where
  keeps := keeps_modify fun _ => rfl
  same _ _ h := ⟨rfl, h⟩

/-- It is as late after an action that stays inside as before. -/
theorem Inward.now_eq {act : Action α} (h : Inward act) {s t : Session} {a : α}
    (hends : Ends act s a t) : t.now = s.now :=
  Session.now_eq_of_outside (h.keeps.of_ends hends)

/-- The node is the same after an action that stays inside as before. -/
theorem Inward.node_eq {act : Action α} (h : Inward act) {s t : Session} {a : α}
    (hends : Ends act s a t) : t.node = s.node :=
  Session.node_eq_of_outside (h.keeps.of_ends hends)

/-- Actions that stay inside do so one after the other.  The second has to do so only for values that
the first can end with. -/
theorem Inward.bind_of_ends {act : Action α} {next : α → Action β} (hact : Inward act)
    (hnext : ∀ a s t, Ends act s a t → Inward (next a)) : Inward (act >>= next) where
  keeps := hact.keeps.bind_of_ends fun a s t h => (hnext a s t h).keeps
  same s t h := by
    obtain ⟨hvalue, hinside⟩ := hact.same s t h
    rw [outcome_bind, outcome_bind]
    rcases hs : act.outcome s with ⟨failure | a, s'⟩ <;>
      rcases ht : act.outcome t with ⟨failure' | a', t'⟩ <;> rw [hs, ht] at hvalue hinside <;>
      cases hvalue
    · exact ⟨rfl, hinside⟩
    · exact (hnext a s s' hs).same s' t' hinside

/-- Steps that stay inside make an action that does. -/
theorem Inward.bind {act : Action α} {next : α → Action β} (hact : Inward act)
    (hnext : ∀ a, Inward (next a)) : Inward (act >>= next) :=
  hact.bind_of_ends fun a _ _ _ => hnext a

/-- What is made of the result of such an action stays inside. -/
theorem Inward.map {act : Action α} (hact : Inward act) (f : α → β) : Inward (f <$> act) := by
  rw [map_eq_pure_bind]
  exact hact.bind fun a => inward_pure (f a)

/-- Catching the failure of such an action stays inside. -/
theorem Inward.attempt {act : Action α} (hact : Inward act) : Inward act.attempt where
  keeps := hact.keeps.attempt
  same s t h := ⟨congrArg Except.ok (hact.same s t h).1, (hact.same s t h).2⟩

/-- An action for each of some elements stays inside if it does for one of them. -/
theorem Inward.mapM {act : α → Action β} (h : ∀ a, Inward (act a)) (as : List α) :
    Inward (as.mapM act) := by
  induction as with
  | nil => exact inward_pure []
  | cons a as ih =>
    rw [List.mapM_cons]
    exact (h a).bind fun b => ih.bind fun bs => inward_pure (b :: bs)

/-- So does an action that gathers from the elements in turn. -/
theorem Inward.foldlM {act : β → α → Action β} (h : ∀ b a, Inward (act b a)) (as : List α)
    (b : β) : Inward (as.foldlM act b) := by
  induction as generalizing b with
  | nil => exact inward_pure b
  | cons a as ih =>
    rw [List.foldlM_cons]
    exact (h b a).bind ih

end Action

end NodeLedger
