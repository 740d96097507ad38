import NodeLedger.Proofs.Price.Attempts
import NodeLedger.Proofs.Price.Search
import NodeLedger.Proofs.Session.Shutdown

/-!
# Prices during a shutdown

Once a shutdown has been requested nothing more is asked of the price services.  Every query looks
for a shutdown before each of its attempts, and every pause ends with it.

So a shutdown that is requested during a pause ends the search for prices at once.  One that has
been requested before ends it at the first query, and does not matter if there is none.

Main results:

- Theorem `RetryPolicy.heeds_run`: a query that is tried more than once heeds a shutdown.
- Theorem `QuerySettings.searchRule_heeds`: so does every search for prices.
- Theorem `PriceSource.heeds_prices`: so does a source of prices, its exchange rates included.
-/

namespace NodeLedger

open NodeLedger.Action NodeLedger.Numeral

variable {α β : Type}

/-! ## Queries -/

/-- A query asks a price service at most once, and does so if it gives an answer. -/
structure Action.AsksOnce (query : Action String) : Prop where
  sent : ∀ s, ∃ sent, (query.outcome s).2.requests = s.requests ++ sent ∧
    (∀ request ∈ sent, request.afterShutdown = s.shutdown) ∧
    ∀ body, (query.outcome s).1 = .ok body → sent ≠ []
  keeps : Keeps (fun s => (s.waits, s.waitsLeft)) query

namespace Action

/-- A query that is made before a shutdown is requested heeds it. -/
theorem AsksOnce.heeded {query : Action String} (h : AsksOnce query) {s : Session}
    (hs : s.shutdown = false) (result : Except Failure α) :
    Heeded s result (query.outcome s).2 := by
  obtain ⟨sent, hsent, hshutdown, -⟩ := h.sent s
  obtain ⟨hwaits, hleft⟩ := Prod.mk.inj (h.keeps s)
  refine heeded_of_sent result hsent ?_ hwaits hleft
  intro request hrequest
  rw [hshutdown request hrequest, hs]

/-- A query that is made only if a check succeeds. -/
theorem asksOnce_lift_bind {r : Except Failure α} {next : α → Action String}
    (h : ∀ a, AsksOnce (next a)) : AsksOnce (liftM r >>= next) where
  sent s := by
    rw [outcome_bind, outcome_lift]
    cases r with
    | error failure => exact ⟨[], (List.append_nil _).symm, by simp, by simp⟩
    | ok a => exact (h a).sent s
  keeps := (keeps_lift r).bind fun a => (h a).keeps

/-- A query that is logged. -/
theorem asksOnce_log_bind {query : Action String} (level : LogLevel) (text : String)
    (h : AsksOnce query) : AsksOnce (log level text >>= fun _ => query) where
  sent s := h.sent (s.write ⟨level, text⟩)
  keeps := Keeps.bind (keeps_modify fun _ => rfl) fun _ => h.keeps

end Action

namespace Http

theorem asksOnce_fetch (url : String) (params : Value) (timeout : Int) :
    AsksOnce (fetch url params timeout) where
  sent s := ⟨[⟨url, params, timeout, s.shutdown⟩], by rw [outcome_fetch], by simp, by simp⟩
  keeps := keeps_fetch (fun _ _ _ _ => rfl) url params timeout

end Http

/-- A wait in which no shutdown is requested was not the last one. -/
theorem Session.heeded_afterWait {s : Session} {seconds : Binary64} {result : Except Failure α}
    (h : (s.afterWait seconds).shutdown = true → result = .error (.price .shuttingDown)) :
    Heeded s result (s.afterWait seconds) where
  sent := ⟨[], (List.append_nil _).symm, by simp⟩
  waited := by
    refine ⟨[seconds], rfl, rfl, ?_⟩
    intro n hn hpos hle
    have hone : n = 1 := by
      have hle : n ≤ 1 := hle
      omega
    apply h
    simp [afterWait, hn, hone]

namespace RetryPolicy

variable {policy : RetryPolicy} {query : Action String} {read : String → Except Failure α}
  {s : Session}

/-- If a shutdown ends the attempts, every pause is a wait for it. -/
theorem afterFailure_eq (hpolicy : policy.endsAtShutdown = true) (done : Nat) (failure : Failure)
    (t : Session) : policy.afterFailure done failure t =
      (t.write (failureLine done failure)).afterWait policy.pause :=
  if_pos hpolicy

theorem stopped_eq (hpolicy : policy.endsAtShutdown = true) (s : Session) :
    policy.stopped s = s.shutdown := by
  rw [stopped, hpolicy, Bool.true_and]

/-- A failed attempt and the pause behind it heed a shutdown. -/
theorem heeded_afterFailure (hpolicy : policy.endsAtShutdown = true) {t : Session}
    (hasked : Heeded s (.ok () : Except Failure Unit) t)
    {done : Nat} {failure : Failure} {result : Except Failure α}
    (hresult : policy.stopped (policy.afterFailure done failure t) = true →
      result = .error (.price .shuttingDown)) :
    Heeded s result (policy.afterFailure done failure t) := by
  rw [stopped_eq hpolicy, afterFailure_eq hpolicy] at hresult
  rw [afterFailure_eq hpolicy]
  have hlogged : Heeded s (.ok () : Except Failure Unit) (t.write (failureLine done failure)) :=
    hasked.trans (heeded_of_quiet _ rfl rfl rfl)
  exact hlogged.trans (Session.heeded_afterWait hresult)

/-- In any number of attempts a shutdown is heeded. -/
theorem heeded_attempts (hpolicy : policy.endsAtShutdown = true) (hquery : AsksOnce query)
    (done left : Nat) (s : Session) :
    Heeded s ((policy.attempts query read done left).outcome s).1
      ((policy.attempts query read done left).outcome s).2 := by
  induction left generalizing done s with
  | zero => exact heeded_of_quiet _ rfl rfl rfl
  | succ left ih =>
    rw [outcome_attempts, stopped_eq hpolicy s]
    by_cases hs : s.shutdown = true
    · rw [if_pos hs]
      exact heeded_of_quiet _ rfl rfl rfl
    · rw [if_neg hs]
      rw [Bool.not_eq_true] at hs
      have hasked := hquery.heeded hs (.ok () : Except Failure Unit)
      have hanswered := fun reply => hquery.heeded hs (read reply)
      generalize query.outcome s = run at hasked hanswered ⊢
      rcases run with ⟨failure | reply, t⟩
      · dsimp only
        split
        · exact heeded_afterFailure hpolicy hasked fun _ => rfl
        · next hrunning =>
          have hfailed : Heeded s (.ok () : Except Failure Unit)
              (policy.afterFailure done failure t) :=
            heeded_afterFailure hpolicy hasked fun hshutdown => absurd hshutdown hrunning
          exact hfailed.trans (ih (done + 1) _)
      · exact hanswered reply

/-- An attempt that is made asks or is followed by a wait. -/
theorem asked_attempts (hpolicy : policy.endsAtShutdown = true) (hquery : AsksOnce query)
    (done left : Nat) (hs : s.shutdown = false) :
    s.Asked ((policy.attempts query read done (left + 1)).outcome s).2 := by
  obtain ⟨sent, hsent, -, hanswer⟩ := hquery.sent s
  have hasked := hquery.heeded hs (.ok () : Except Failure Unit)
  rw [outcome_attempts, stopped_eq hpolicy s, if_neg (Bool.eq_false_iff.mp hs)]
  generalize query.outcome s = run at hsent hanswer hasked ⊢
  rcases run with ⟨failure | reply, t⟩
  · have hwaited : s.Asked (policy.afterFailure done failure t) := by
      right
      rw [afterFailure_eq hpolicy]
      intro heq
      have hlength := congrArg List.length heq
      have hgrown : s.waits.length ≤ t.waits.length := hasked.grows.2.length_le
      simp only [Session.afterWait, Session.write, List.length_append,
        List.length_singleton] at hlength
      omega
    dsimp only
    split
    · exact hwaited
    · next hrunning =>
      have hfailed : Heeded s (.ok () : Except Failure Unit)
          (policy.afterFailure done failure t) :=
        heeded_afterFailure hpolicy hasked fun hshutdown => absurd hshutdown hrunning
      exact hfailed.asked (heeded_attempts hpolicy hquery (done + 1) left _) hwaited
  · left
    intro heq
    rw [hsent] at heq
    exact hanswer reply rfl (List.append_right_eq_self.mp heq)

/-- So a query that is tried more than once heeds a shutdown. -/
theorem heeds_attempts (hpolicy : policy.endsAtShutdown = true) (hquery : AsksOnce query)
    (done left : Nat) : Heeds (policy.attempts query read done left) where
  heeded := heeded_attempts hpolicy hquery done left
  stops s hs := by
    cases left with
    | zero => exact .unasked (by simp [attempts, Session.Asked]) hs rfl
    | succ left =>
      have hstopped : (policy.attempts query read done (left + 1)).outcome s.stopped =
          (.error (.price .shuttingDown), s.stopped) := by
        have hshutdown : policy.stopped s.stopped = true := by
          rw [stopped_eq hpolicy]
          rfl
        rw [outcome_attempts, if_pos hshutdown]
      rw [hstopped]
      exact .asked (asked_attempts hpolicy hquery done left hs) rfl rfl

theorem heeds_run (hpolicy : policy.endsAtShutdown = true) (hquery : AsksOnce query) :
    Heeds (policy.run query read) :=
  heeds_attempts hpolicy hquery _ _

end RetryPolicy

/-! ## Searches -/

/-- Every search for prices heeds a shutdown. -/
theorem QuerySettings.searchRule_heeds {settings : QuerySettings}
    (hpolicy : settings.retry.endsAtShutdown = true) : SearchRule settings AsksOnce Heeds where
  pure := heeds_pure
  throw := heeds_throw
  lift := heeds_lift
  log := heeds_log
  now := heeds_now
  -- The answers that are left do not depend on a shutdown.
  answersLeft h hsame := heeds_get_bind h fun s => hsame s.stopped s rfl
  bind := Heeds.bind
  asks_fetch := Http.asksOnce_fetch
  asks_log level text _ h := asksOnce_log_bind level text h
  asks_lift _ _ h := asksOnce_lift_bind h
  run _ h := RetryPolicy.heeds_run hpolicy h

/-! ## Sources of prices -/

namespace PriceSource

variable {source : PriceSource} {settings : QuerySettings}

/-- The prices of a source that is made for a configuration heed a shutdown. -/
theorem heeds_prices {config : Option PriceConfig} (h : make config settings = .ok source)
    (hpolicy : settings.retry.endsAtShutdown = true) (period : Period) :
    Heeds (source.prices period) :=
  (QuerySettings.searchRule_heeds hpolicy).sourcePrices h period

/-- Once a shutdown has been requested, no price service is asked any more.

Of the requests that are sent for the prices of a period none is sent after that.  If a shutdown is
requested in one of the waits on the way, the search ends with it.  If one has been requested
before, nothing is asked: the search comes to what it comes to without a shutdown if it asks nothing
there, and ends because of the shutdown if it does. -/
theorem prices_heed_shutdown {config : Option PriceConfig} (h : make config settings = .ok source)
    (hpolicy : settings.retry.endsAtShutdown = true) (period : Period) (s : Session) :
    let run := (source.prices period).outcome s
    (∃ sent, run.2.requests = s.requests ++ sent ∧
      ∀ request ∈ sent, request.afterShutdown = false) ∧
    (∃ waited, run.2.waits = s.waits ++ waited ∧
      ∀ n, s.waitsLeft = some n → 0 < n → n ≤ waited.length →
        run.1 = .error (.price .shuttingDown)) ∧
    (s.shutdown = true → run.2.requests = s.requests ∧
      let calm := (source.prices period).outcome { s with shutdown := false }
      (s.Asked calm.2 → run.1 = .error (.price .shuttingDown)) ∧
      (¬ s.Asked calm.2 → run.1 = calm.1)) := by
  intro run
  have hheeds := heeds_prices h hpolicy period
  obtain ⟨waited, hwaited, -, hends⟩ := (hheeds.heeded s).waited
  refine ⟨(hheeds.heeded s).sent, ⟨waited, hwaited, hends⟩, ?_⟩
  intro hs
  have hstopped : Session.stopped { s with shutdown := false } = s := by
    unfold Session.stopped
    rw [← hs]
  have hstops := hheeds.stops { s with shutdown := false } rfl
  rw [hstopped] at hstops
  cases hstops with
  | unasked hasked _ hsame =>
    refine ⟨?_, fun hcalm => absurd hcalm hasked, ?_⟩
    · obtain ⟨hrequests, -⟩ := not_or.mp hasked
      have hrun : run.2.requests = _ := congrArg (·.2.requests) hsame
      exact hrun.trans (not_not.mp hrequests)
    · intro _
      have hresult := congrArg Prod.fst hsame
      exact hresult
  | asked hasked hends hrequests => exact ⟨hrequests, fun _ => hends, fun h => absurd hasked h⟩

/-- The service fails twice, and a shutdown is requested in the second pause: the search ends there.
With a shutdown from the start the service is not even asked once. -/
theorem prices_heed_shutdown_secondPause :
    let source : PriceSource := { config := { backend := .coindesk }, settings := {} }
    let s : Session :=
      { now := 1000000, waitsLeft := some 2,
        replies := { listed := [
          { body := .error "reset" }, { body := .error "unavailable" }, { body := .ok "" }] } }
    let run := (source.prices ⟨0, 500000⟩).outcome s
    let late := (source.prices ⟨0, 500000⟩).outcome s.stopped
    make (some source.config) {} = .ok source ∧
      run.2.requests.map (·.afterShutdown) = [false, false] ∧ run.2.waits.length = 2 ∧
      run.1 = .error (.price .shuttingDown) ∧
      late.1 = .error (.price .shuttingDown) ∧ late.2.requests = [] := by
  intro source s run late
  have hmake : make (some source.config) {} = .ok source := rfl
  have hsent : run.2.requests.map (·.afterShutdown) = [false, false] := by
    decide +kernel
  have hwaits : run.2.waits.length = 2 := by
    decide +kernel
  obtain ⟨-, ⟨waited, hwaited, hends⟩, -⟩ := prices_heed_shutdown hmake rfl ⟨0, 500000⟩ s
  obtain ⟨-, -, hlate⟩ := prices_heed_shutdown hmake rfl ⟨0, 500000⟩ s.stopped
  obtain ⟨hnone, hcalm, -⟩ := hlate rfl
  refine ⟨hmake, hsent, hwaits, hends 2 rfl (by decide) ?_, hcalm (.inl ?_), hnone⟩
  · have hlength : waited.length = 2 := by
      rw [← hwaits, hwaited]
      rfl
    omega
  · show run.2.requests ≠ []
    rintro hnil
    rw [hnil] at hsent
    cases hsent

end PriceSource

end NodeLedger
