import NodeLedger.Proofs.Session.Mirror

/-!
# The log does not matter

The log is written and never read: an action that is done in two sessions which differ in nothing
but their logs comes to the same in both, and the sessions that it leaves behind differ in nothing
but their logs again.

Main results:

- Definition `Action.IgnoresLog`: the log does not matter to an action.
- Theorems `Action.ignoresLog_get_bind` and `Action.ignoresLog_modify`: nor does it matter to what
  sees and changes a session without it.  Theorem `Action.IgnoresLog.bind` and those beside it: nor to
  what is made of such actions.
-/

namespace NodeLedger

variable {α β : Type}

/-- A session without its log. -/
def Session.unlogged (session : Session) : Session :=
  { session with log := [] }

/-- Sessions that differ in nothing but their logs. -/
def Pairing.unlogged : Pairing where
  paired s t := s.unlogged = t.unlogged
  paired_write _ _ _ _ h := h

namespace Action

/-- The log does not matter to an action: in sessions that differ in nothing else it comes to the
same and leaves such sessions behind. -/
def IgnoresLog (act : Action α) : Prop :=
  Mirrors .unlogged Eq act act

/-- Returning a value ignores the log. -/
theorem ignoresLog_pure (a : α) : IgnoresLog (pure a) :=
  mirrors_pure rfl

/-- So does throwing a failure. -/
theorem ignoresLog_throw (failure : Failure) : IgnoresLog (throw failure : Action α) :=
  mirrors_throw failure

/-- So does a check. -/
theorem ignoresLog_lift (r : Except Failure α) : IgnoresLog (liftM r : Action α) :=
  mirrors_check r

/-- A line that is added to the log is not read. -/
theorem ignoresLog_log (level : LogLevel) (text : String) : IgnoresLog (log level text) :=
  mirrors_log level level text text

/-- Steps that ignore the log make an action that does. -/
theorem IgnoresLog.bind {act : Action α} {next : α → Action β} (hact : IgnoresLog act)
    (hnext : ∀ a, IgnoresLog (next a)) : IgnoresLog (act >>= next) :=
  Mirrors.bind_eq hact hnext

/-- What is attempted comes to the same too, as its failures are the same. -/
theorem IgnoresLog.attempt {act : Action α} (h : IgnoresLog act) : IgnoresLog act.attempt :=
  (Mirrors.attempt h).imp fun _ _ => matches_eq_iff.mp

/-- What is seen of a session without its log. -/
theorem ignoresLog_get_bind {next : Session → Action α} (hsame : ∀ s, next s = next s.unlogged)
    (h : ∀ s, IgnoresLog (next s)) : IgnoresLog (get >>= next) := by
  intro s t hpaired
  rw [outcome_bind, outcome_bind, outcome_get, outcome_get]
  have hunlogged : s.unlogged = t.unlogged := hpaired
  have hnext : next s = next t := by
    rw [hsame s, hunlogged, ← hsame t]
  dsimp only
  rw [hnext]
  exact h t s t hpaired

/-- What is changed in a session without its log. -/
theorem ignoresLog_modify {change : Session → Session}
    (hsame : ∀ s, (change s).unlogged = (change s.unlogged).unlogged) :
    IgnoresLog (modify change : Action Unit) := by
  intro s t hpaired
  have hunlogged : s.unlogged = t.unlogged := hpaired
  refine ⟨.ok rfl, ?_⟩
  show (change s).unlogged = (change t).unlogged
  rw [hsame s, hunlogged, ← hsame t]

theorem ignoresLog_now : IgnoresLog now :=
  ignoresLog_get_bind (fun _ => rfl) fun s => ignoresLog_pure s.now

end Action

open NodeLedger.Action

/-! ## Queries -/

namespace Shutdown

theorem ignoresLog_requested : IgnoresLog requested :=
  ignoresLog_get_bind (fun _ => rfl) fun s => ignoresLog_pure s.shutdown

theorem ignoresLog_wait (seconds : Numeral.Binary64) : IgnoresLog (wait seconds) :=
  (ignoresLog_modify fun _ => rfl).bind fun _ => ignoresLog_requested

theorem ignoresLog_sleep (seconds : Numeral.Binary64) : IgnoresLog (sleep seconds) :=
  ignoresLog_modify fun _ => rfl

end Shutdown

namespace Http

/-- What comes of a request does not depend on the log. -/
theorem ignoresLog_receive : IgnoresLog receive := by
  unfold receive
  apply ignoresLog_get_bind
  · intro s
    rfl
  · intro s
    exact (ignoresLog_modify fun _ => rfl).bind fun _ => ignoresLog_lift s.replies.next.result

/-- Nor does sending it. -/
theorem ignoresLog_fetch (url : String) (params : Value) (timeout : Int) :
    IgnoresLog (fetch url params timeout) :=
  (ignoresLog_modify fun _ => rfl).bind fun _ => ignoresLog_receive

end Http

end NodeLedger
