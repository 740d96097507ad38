import NodeLedger.Proofs.Session.Frame

/-!
# Runs during a shutdown

A shutdown can be requested before a run or in one of its waits.  A run heeds it if nothing is asked
of the price services any more once it has been requested, and if the wait in which it is requested
is the last thing that is done.

A run in a session in which it has been requested before is compared with the run in the session
that is the same but for that: the two come to the same up to the first thing that is asked or
waited for.  That is what makes the property one that actions one after the other share.

Main results:

- Structures `Action.Heeded` and `Action.Heeds`: a run in which a shutdown is heeded, and an action
  all of whose runs are such.
- Theorem `Action.Heeded.trans`: a run that goes on with another one heeds a shutdown if both do.
- Theorem `Action.Heeds.bind`: so do actions one after the other.
-/

namespace NodeLedger

open NodeLedger.Action

variable {α β : Type}

/-- A session in which a shutdown has been requested. -/
def Session.stopped (session : Session) : Session :=
  { session with shutdown := true }

/-- Something has been asked of the price services, or waited for, between two sessions. -/
def Session.Asked (before after : Session) : Prop :=
  after.requests ≠ before.requests ∨ after.waits ≠ before.waits

namespace Action

/-! ## Runs in which a shutdown is heeded -/

/-- In a run nothing was asked of the price services after a shutdown had been requested, and a
pause in which it was requested has ended the run. -/
structure Heeded (s : Session) (result : Except Failure α) (t : Session) : Prop where
  sent : ∃ sent, t.requests = s.requests ++ sent ∧ ∀ request ∈ sent, request.afterShutdown = false
  waited : ∃ waited, t.waits = s.waits ++ waited ∧
    t.waitsLeft = s.waitsLeft.map (· - (waited.length : Int)) ∧
    ∀ n, s.waitsLeft = some n → 0 < n → n ≤ waited.length → result = .error (.price .shuttingDown)

variable {s t u : Session}

/-- Where nothing is waited for, only what is asked matters. -/
theorem heeded_of_sent (result : Except Failure α) {sent : List HttpRequest}
    (hsent : t.requests = s.requests ++ sent)
    (hbefore : ∀ request ∈ sent, request.afterShutdown = false) (hwaits : t.waits = s.waits)
    (hleft : t.waitsLeft = s.waitsLeft) : Heeded s result t where
  sent := ⟨sent, hsent, hbefore⟩
  waited := by
    refine ⟨[], by rw [hwaits, List.append_nil], ?_, ?_⟩
    · rw [hleft]
      cases s.waitsLeft <;> simp
    · intro n _ hpos hle
      have hzero : n ≤ 0 := hle
      omega

/-- Where nothing is asked either, there is nothing to be heeded. -/
theorem heeded_of_quiet (result : Except Failure α) (hrequests : t.requests = s.requests)
    (hwaits : t.waits = s.waits) (hleft : t.waitsLeft = s.waitsLeft) : Heeded s result t :=
  heeded_of_sent result (hrequests.trans (List.append_nil _).symm) (by simp) hwaits hleft

/-- A run that fails heeds a shutdown whatever it might have given. -/
theorem Heeded.of_error {failure : Failure}
    (h : Heeded s (.error failure : Except Failure α) t) :
    Heeded s (.error failure : Except Failure β) t := by
  obtain ⟨waited, hwaited, hleft, hends⟩ := h.waited
  refine ⟨h.sent, waited, hwaited, hleft, ?_⟩
  intro n hn hpos hle
  cases hends n hn hpos hle
  rfl

/-- A run that goes on with another one. -/
theorem Heeded.trans {a : α} {result : Except Failure β}
    (hfirst : Heeded s (.ok a : Except Failure α) t) (hrest : Heeded t result u) :
    Heeded s result u := by
  obtain ⟨sent, hsent, hbefore⟩ := hfirst.sent
  obtain ⟨more, hmore, hafter⟩ := hrest.sent
  obtain ⟨waited, hwaited, hleft, hends⟩ := hfirst.waited
  obtain ⟨longer, hlonger, hrestLeft, hrestEnds⟩ := hrest.waited
  refine ⟨⟨sent ++ more, ?_, ?_⟩, ⟨waited ++ longer, ?_, ?_, ?_⟩⟩
  · rw [hmore, hsent, List.append_assoc]
  · intro request hrequest
    exact (List.mem_append.mp hrequest).elim (hbefore request) (hafter request)
  · rw [hlonger, hwaited, List.append_assoc]
  · rw [hrestLeft, hleft, Option.map_map, List.length_append]
    congr 1
    funext n
    simp only [Function.comp_apply, Nat.cast_add]
    omega
  · intro n hn hpos hle
    rw [List.length_append, Nat.cast_add] at hle
    by_cases hdone : n ≤ waited.length
    · cases hends n hn hpos hdone
    · have hremain : t.waitsLeft = some (n - waited.length) := by
        rw [hleft, hn]
        rfl
      exact hrestEnds _ hremain (by omega) (by omega)

/-- Requests and waits are only added. -/
theorem Heeded.grows {result : Except Failure α} (h : Heeded s result t) :
    s.requests <+: t.requests ∧ s.waits <+: t.waits := by
  obtain ⟨sent, hsent, -⟩ := h.sent
  obtain ⟨waited, hwaited, -⟩ := h.waited
  exact ⟨⟨sent, hsent.symm⟩, ⟨waited, hwaited.symm⟩⟩

/-- Something that has been asked stays so. -/
theorem Heeded.asked {first : Except Failure α} {result : Except Failure β}
    (hfirst : Heeded s first t) (hrest : Heeded t result u) (hasked : s.Asked t) : s.Asked u := by
  obtain ⟨hrequests, hwaits⟩ := hfirst.grows
  obtain ⟨hrequests', hwaits'⟩ := hrest.grows
  refine hasked.imp ?_ ?_
  · intro hne heq
    rw [heq] at hrequests'
    exact hne (hrequests'.eq_of_length_le hrequests.length_le)
  · intro hne heq
    rw [heq] at hwaits'
    exact hne (hwaits'.eq_of_length_le hwaits.length_le)

/-! ## Actions that heed a shutdown -/

/-- How a run ends in a session in which a shutdown has been requested, given how it ends in one
that is the same but for that: as it does there, if nothing is asked there, and because of the
shutdown if something is. -/
inductive EndsAtFirstQuery (s : Session) (run stopped : Except Failure α × Session) : Prop where
  | unasked (hasked : ¬ s.Asked run.2) (hrunning : run.2.shutdown = false)
      (hsame : stopped = (run.1, run.2.stopped))
  | asked (hasked : s.Asked run.2) (hends : stopped.1 = .error (.price .shuttingDown))
      (hrequests : stopped.2.requests = s.requests)

/-- An action heeds a shutdown in all of its runs, whenever it is requested. -/
structure Heeds (act : Action α) : Prop where
  heeded : ∀ s, Heeded s (act.outcome s).1 (act.outcome s).2
  stops : ∀ s, s.shutdown = false → EndsAtFirstQuery s (act.outcome s) (act.outcome s.stopped)

/-- What does not change the session, and does not depend on a shutdown, heeds it. -/
theorem heeds_of_still {act : Action α} (result : Session → Except Failure α)
    (houtcome : ∀ s, act.outcome s = (result s, s))
    (hresult : ∀ s, result s.stopped = result s) : Heeds act where
  heeded s := by
    rw [houtcome]
    exact heeded_of_quiet _ rfl rfl rfl
  stops s hs := by
    rw [houtcome, houtcome, hresult]
    exact .unasked (by simp [Session.Asked]) hs rfl

theorem heeds_pure (a : α) : Heeds (pure a) :=
  heeds_of_still (fun _ => .ok a) (fun _ => rfl) fun _ => rfl

theorem heeds_throw (failure : Failure) : Heeds (throw failure : Action α) :=
  heeds_of_still (fun _ => .error failure) (fun _ => rfl) fun _ => rfl

theorem heeds_lift (r : Except Failure α) : Heeds (liftM r : Action α) :=
  heeds_of_still (fun _ => r) (outcome_lift r) fun _ => rfl

theorem heeds_now : Heeds now :=
  heeds_of_still (fun s => .ok s.now) (fun _ => rfl) fun _ => rfl

theorem heeds_log (level : LogLevel) (text : String) : Heeds (log level text) where
  heeded s := heeded_of_quiet _ rfl rfl rfl
  stops s hs := .unasked (by simp [Session.Asked, log, Session.write]) hs rfl

/-- Actions one after the other heed a shutdown if both do. -/
theorem Heeds.bind {act : Action α} {next : α → Action β} (hact : Heeds act)
    (hnext : ∀ a, Heeds (next a)) : Heeds (act >>= next) where
  heeded s := by
    have hfirst := hact.heeded s
    rw [outcome_bind]
    generalize act.outcome s = run at hfirst ⊢
    rcases run with ⟨failure | a, t⟩
    · exact hfirst.of_error
    · exact hfirst.trans ((hnext a).heeded t)
  stops s hs := by
    have hfirst := hact.heeded s
    have hstops := hact.stops s hs
    rw [outcome_bind, outcome_bind]
    generalize act.outcome s = run at hfirst hstops ⊢
    generalize act.outcome s.stopped = stopped at hstops ⊢
    cases hstops with
    | unasked hasked hrunning hsame =>
      rw [hsame]
      rcases run with ⟨failure | a, t⟩
      · exact .unasked hasked hrunning rfl
      · obtain ⟨hrequests, hwaits⟩ := not_or.mp hasked
        rw [ne_eq, not_not] at hrequests hwaits
        have hiff : ∀ u : Session, t.Asked u ↔ s.Asked u := by
          intro u
          unfold Session.Asked
          rw [hrequests, hwaits]
        cases (hnext a).stops t hrunning with
        | unasked hasked' hrunning' hsame' =>
          exact .unasked (fun h => hasked' ((hiff _).mpr h)) hrunning' hsame'
        | asked hasked' hends' hrequests' =>
          exact .asked ((hiff _).mp hasked') hends' (hrequests'.trans hrequests)
    | asked hasked hends hrequests =>
      rcases stopped with ⟨_ | _, v⟩ <;> cases hends
      refine .asked ?_ rfl hrequests
      rcases run with ⟨failure | a, t⟩
      · exact hasked
      · exact hfirst.asked ((hnext a).heeded t) hasked

/-- What is made of the session heeds a shutdown if it is made in the same way whether or not one
has been requested. -/
theorem heeds_get_bind {act : Session → Action α} (h : ∀ s, Heeds (act s))
    (hsame : ∀ s, act s.stopped = act s) : Heeds (get >>= act) where
  heeded s := by
    rw [outcome_bind, outcome_get]
    exact (h s).heeded s
  stops s hs := by
    rw [outcome_bind, outcome_bind, outcome_get, outcome_get]
    dsimp only
    rw [hsame]
    exact (h s).stops s hs

end Action

end NodeLedger
