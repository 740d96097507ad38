import Mathlib.Data.ENat.Lattice
import NodeLedger.Price.Retry
import NodeLedger.Proofs.Session.Frame

/-!
# Queries that are tried more than once

How such a query ends depends on three numbers: how many attempts are allowed, how many of them fail
before the first one that is answered, and with which of the pauses a shutdown is requested.  The
least of the three decides; where the last attempt allowed fails and a shutdown is requested in the
pause behind it, the attempts end because of the shutdown.

Main results:

- Theorem `RetryPolicy.outcome_attempts`: what one attempt comes to.
- Structure `Action.Plays`: a query that comes to the outcomes of a series in turn.  Theorem
  `QuerySettings.plays_fetch`: the queries of price services are such.
- Structure `RetryPolicy.Failing` and theorem `RetryPolicy.exists_failing`: the session after some
  failed attempts.
- Theorem `RetryPolicy.run_ends`: how a query that is tried more than once ends, how often it is
  made, what is logged and how often is waited.
-/

namespace NodeLedger

open NodeLedger.Action NodeLedger.Numeral

variable {α : Type}

/-! ## One attempt -/

namespace Session

/-- A session in which so many seconds have been waited for a shutdown. -/
def afterWait (session : Session) (seconds : Binary64) : Session :=
  { session with
    waits := session.waits ++ [seconds]
    shutdown := session.shutdown || session.waitsLeft == some 1
    waitsLeft := session.waitsLeft.map (· - 1) }

/-- A session in which so many seconds have been waited, whatever was requested. -/
def afterSleep (session : Session) (seconds : Binary64) : Session :=
  { session with waits := session.waits ++ [seconds] }

end Session

namespace RetryPolicy

variable {policy : RetryPolicy} {query : Action String} {read : String → Except Failure α}

/-- Whether a shutdown that ends the attempts has been requested. -/
def stopped (policy : RetryPolicy) (session : Session) : Bool :=
  policy.endsAtShutdown && session.shutdown

/-- A session after a pause. -/
def afterRest (policy : RetryPolicy) (session : Session) : Session :=
  if policy.endsAtShutdown then session.afterWait policy.pause
  else session.afterSleep policy.pause

/-- The log line about a failed attempt. -/
def failureLine (done : Nat) (failure : Failure) : LogLine :=
  ⟨.error, "http get attempt: " ++ toString done ++ " failed: " ++ failure.message⟩

/-- The session after a failed attempt and the pause behind it. -/
def afterFailure (policy : RetryPolicy) (done : Nat) (failure : Failure) (t : Session) : Session :=
  policy.afterRest (t.write (failureLine done failure))

/-- A query is not begun after a shutdown. -/
theorem outcome_checkRunning (policy : RetryPolicy) (s : Session) :
    policy.checkRunning.outcome s =
      if policy.stopped s then (.error (.price .shuttingDown), s) else (.ok (), s) := by
  have hrequested : Shutdown.requested.outcome s = (.ok s.shutdown, s) := rfl
  unfold checkRunning stopped
  cases policy.endsAtShutdown with
  | false => rfl
  | true =>
    rw [if_pos rfl, outcome_bind, hrequested]
    cases s.shutdown <;> rfl

/-- After a rest a query goes on unless it has been stopped. -/
theorem outcome_rest (policy : RetryPolicy) (s : Session) :
    policy.rest.outcome s =
      if policy.stopped (policy.afterRest s) then
        (.error (.price .shuttingDown), policy.afterRest s)
      else (.ok (), policy.afterRest s) := by
  have hwait : (Shutdown.wait policy.pause).outcome s =
      (.ok (s.afterWait policy.pause).shutdown, s.afterWait policy.pause) := rfl
  unfold rest stopped afterRest
  cases policy.endsAtShutdown with
  | false => rfl
  | true =>
    rw [if_pos rfl, outcome_bind, hwait, if_pos rfl]
    cases (s.afterWait policy.pause).shutdown <;> rfl

/-- An attempt is not made if a shutdown has been requested.  A failed one is the last one if a
shutdown is requested in the pause behind it. -/
theorem outcome_attempts (policy : RetryPolicy) (done left : Nat) (s : Session) :
    (policy.attempts query read done (left + 1)).outcome s =
      if policy.stopped s then (.error (.price .shuttingDown), s)
      else match query.outcome s with
        | (.ok reply, t) => (read reply, t)
        | (.error failure, t) =>
          if policy.stopped (policy.afterFailure done failure t) then
            (.error (.price .shuttingDown), policy.afterFailure done failure t)
          else (policy.attempts query read (done + 1) left).outcome
            (policy.afterFailure done failure t) := by
  rw [attempts, outcome_bind, outcome_checkRunning]
  by_cases hs : policy.stopped s = true
  · rw [if_pos hs, if_pos hs]
  · rw [if_neg hs, if_neg hs]
    dsimp only
    rw [outcome_bind, outcome_attempt]
    rcases query.outcome s with ⟨failure | reply, t⟩
    · dsimp only
      rw [outcome_bind, log, outcome_modify]
      dsimp only
      have hrest : policy.rest.outcome (t.write (failureLine done failure)) =
          if policy.stopped (policy.afterFailure done failure t) then
            (.error (.price .shuttingDown), policy.afterFailure done failure t)
          else (.ok (), policy.afterFailure done failure t) :=
        outcome_rest policy _
      unfold failureLine at hrest
      rw [outcome_bind, hrest]
      by_cases hstopped : policy.stopped (policy.afterFailure done failure t) = true
      · rw [if_pos hstopped, if_pos hstopped]
      · rw [if_neg hstopped, if_neg hstopped]
    · rfl

end RetryPolicy

/-! ## Queries that come to a series of outcomes -/

/-- The errors in the log of a session. -/
def Session.errors (session : Session) : List LogLine :=
  session.log.filter fun line => decide (line.level = .error)

/-- A query comes to the outcomes of a series in turn, where it can be told of a session how many
queries have been made before.  It requests no shutdown, does not wait and logs no error. -/
structure Action.Plays (query : Action String) (outcomes : ℕ → Except Failure String)
    (made : ℕ → Session → Prop) : Prop where
  outcome_eq : ∀ i s, made i s → (query.outcome s).1 = outcomes i
  made_succ : ∀ i s, made i s → made (i + 1) (query.outcome s).2
  /-- What is logged and waited for between the queries does not matter. -/
  made_aside : ∀ i s log waits shutdown waitsLeft, made i s →
    made i { s with log, waits, shutdown, waitsLeft }
  keeps : ∀ i s, made i s →
    (query.outcome s).2.shutdown = s.shutdown ∧ (query.outcome s).2.waitsLeft = s.waitsLeft ∧
      (query.outcome s).2.waits = s.waits ∧ (query.outcome s).2.errors = s.errors

namespace HttpOutcomes

variable {outcomes : HttpOutcomes}

/-- Outcomes are taken one after the other. -/
theorem drop_drop (outcomes : HttpOutcomes) (m n : Nat) :
    (outcomes.drop m).drop n = outcomes.drop (m + n) := by
  simp only [drop, List.drop_drop]

/-- If no request is interrupted by what is listed, none is interrupted at all. -/
theorem next_interrupts (h : ∀ outcome ∈ outcomes.listed, outcome.interrupts = false) :
    outcomes.next.interrupts = false := by
  unfold next
  cases hhead : outcomes.listed.head? with
  | none => rfl
  | some outcome => exact h outcome (List.mem_of_head? hhead)

end HttpOutcomes

/-- The query of a price service comes to its outcomes in turn, as long as no shutdown is requested
while one is under way. -/
theorem QuerySettings.plays_fetch (settings : QuerySettings) (service url : String)
    (params : List (String × Value)) {replies : HttpOutcomes}
    (h : ∀ outcome ∈ replies.listed, outcome.interrupts = false) (before : Nat) :
    Plays (settings.fetch service url params) (fun i => (replies.drop i).next.result)
      fun i s => s.replies = replies.drop i ∧ s.requests.length = before + i := by
  have hfetch : ∀ s : Session, ∃ line asked, line.level = .debug ∧
      (settings.fetch service url params).outcome s = (s.replies.next.result,
        { s.write line with
          requests := s.requests ++ [asked]
          replies := s.replies.drop 1
          shutdown := s.shutdown || s.replies.next.interrupts }) :=
    fun s => ⟨_, _, rfl, rfl⟩
  refine ⟨?_, ?_, fun _ _ _ _ _ _ hmade => hmade, ?_⟩
  · rintro i s ⟨hreplies, -⟩
    obtain ⟨line, asked, -, hs⟩ := hfetch s
    rw [hs, hreplies]
  · rintro i s ⟨hreplies, hlength⟩
    obtain ⟨line, asked, -, hs⟩ := hfetch s
    rw [hs]
    refine ⟨?_, ?_⟩
    · show s.replies.drop 1 = _
      rw [hreplies, HttpOutcomes.drop_drop]
    · show (s.requests ++ [asked]).length = _
      rw [List.length_append, hlength]
      rfl
  · rintro i s ⟨hreplies, -⟩
    obtain ⟨line, asked, hlevel, hs⟩ := hfetch s
    have hcalm : s.replies.next.interrupts = false := by
      rw [hreplies]
      exact HttpOutcomes.next_interrupts fun outcome houtcome =>
        h outcome (List.mem_of_mem_drop houtcome)
    rw [hs]
    refine ⟨?_, rfl, rfl, ?_⟩
    · show (s.shutdown || s.replies.next.interrupts) = s.shutdown
      rw [hcalm, Bool.or_false]
    · show (s.log ++ [line]).filter _ = s.log.filter _
      rw [List.filter_append, List.filter_singleton, hlevel]
      simp

/-! ## The three numbers -/

/-- How many outcomes of a series are failures before the first one that is an answer, without end
if none is. -/
noncomputable def failuresFirst (outcomes : ℕ → Except Failure String) : ℕ∞ :=
  open Classical in if h : ∃ i, (outcomes i).isOk = true then (Nat.find h : ℕ∞) else ⊤

section Outcomes

variable {outcomes : ℕ → Except Failure String} {i : ℕ}

/-- Before the first success there are failures only. -/
theorem exists_failure_of_lt (h : (i : ℕ∞) < failuresFirst outcomes) :
    ∃ failure, outcomes i = .error failure := by
  cases houtcome : outcomes i with
  | error failure => exact ⟨failure, rfl⟩
  | ok reply =>
    have hanswered : (outcomes i).isOk = true := by
      rw [houtcome]
      rfl
    rw [failuresFirst, dif_pos ⟨i, hanswered⟩, Nat.cast_lt] at h
    exact absurd hanswered (Nat.find_min _ h)

/-- Behind them is a success. -/
theorem exists_answer_of_eq (h : failuresFirst outcomes = i) :
    ∃ reply, outcomes i = .ok reply := by
  unfold failuresFirst at h
  split at h
  · next hanswered =>
    have hspec := Nat.find_spec hanswered
    rw [Nat.cast_inj.mp h] at hspec
    cases houtcome : outcomes i with
    | error failure =>
      rw [houtcome] at hspec
      cases hspec
    | ok reply => exact ⟨reply, rfl⟩
  · exact absurd h.symm (ENat.natCast_ne_top i)

/-- Where there were failures only, the first success is yet to come. -/
theorem le_failuresFirst (h : ∀ j < i, (outcomes j).isOk = false) :
    (i : ℕ∞) ≤ failuresFirst outcomes := by
  unfold failuresFirst
  split
  · next hanswered =>
    rw [Nat.cast_le, Nat.le_find_iff]
    intro j hj
    rw [h j hj]
    exact Bool.false_ne_true
  · exact le_top

end Outcomes

namespace RetryPolicy

variable {policy : RetryPolicy} {query : Action String} {read : String → Except Failure α}
  {outcomes : ℕ → Except Failure String} {made : ℕ → Session → Prop} {s t : Session} {i : ℕ}

/-- The pause, counted from one, in which a shutdown is requested that ends the attempts; beyond all
of them if none is. -/
def stopWait (policy : RetryPolicy) (s : Session) : ℕ∞ :=
  match s.waitsLeft with
  | some n => if policy.endsAtShutdown = true ∧ 0 < n then (n.toNat : ℕ∞) else ⊤
  | none => ⊤

theorem stopWait_eq_succ_iff :
    policy.stopWait s = (i + 1 : ℕ) ↔
      policy.endsAtShutdown = true ∧ s.waitsLeft = some (i + 1 : Int) := by
  unfold stopWait
  cases s.waitsLeft with
  | none =>
    refine iff_of_false (ENat.top_ne_natCast _) ?_
    rintro ⟨-, ⟨⟩⟩
  | some n =>
    dsimp only
    by_cases h : policy.endsAtShutdown = true ∧ 0 < n
    · rw [if_pos h, Nat.cast_inj, Option.some_inj]
      obtain ⟨hpolicy, hpos⟩ := h
      simp only [hpolicy, true_and]
      omega
    · rw [if_neg h, Option.some_inj]
      refine iff_of_false (ENat.top_ne_natCast _) ?_
      rintro ⟨hpolicy, rfl⟩
      exact h ⟨hpolicy, by omega⟩

/-- Nothing is stopped before the first wait. -/
theorem stopWait_pos : 0 < policy.stopWait s := by
  unfold stopWait
  cases s.waitsLeft with
  | none => exact ENat.top_pos
  | some n =>
    dsimp only
    by_cases h : policy.endsAtShutdown = true ∧ 0 < n
    · rw [if_pos h, ← Nat.cast_zero, Nat.cast_lt]
      omega
    · rw [if_neg h]
      exact ENat.top_pos

/-- The pauses are counted from one. -/
theorem exists_stopWait_eq_succ (h : policy.stopWait s ≤ i) :
    ∃ k : ℕ, policy.stopWait s = (k + 1 : ℕ) := by
  obtain ⟨k, hk⟩ := ENat.ne_top_iff_exists.mp (h.trans_lt (ENat.natCast_lt_top i)).ne
  have hpos : 0 < policy.stopWait s := stopWait_pos
  rw [← hk, ← Nat.cast_zero, Nat.cast_lt] at hpos
  exact ⟨k - 1, by rw [← hk, Nat.sub_add_cancel hpos]⟩

theorem stopWait_le_succ_iff :
    policy.stopWait s ≤ (i + 1 : ℕ) ↔
      policy.stopWait s ≤ i ∨ policy.stopWait s = (i + 1 : ℕ) := by
  cases policy.stopWait s with
  | top => simp [-Nat.cast_add]
  | coe k =>
    rw [Nat.cast_le, Nat.cast_le, Nat.cast_inj]
    omega

/-! ## Failed attempts -/

/-- The lines about those of the first outcomes of a series that are failures. -/
def failureLines (outcomes : ℕ → Except Failure String) (queries : ℕ) : List LogLine :=
  (List.range queries).filterMap fun i =>
    match outcomes i with
    | .ok _ => none
    | .error failure => some (failureLine i failure)

/-- A failure adds a line to the log. -/
theorem failureLines_succ_of_error {failure : Failure} (h : outcomes i = .error failure) :
    failureLines outcomes (i + 1) = failureLines outcomes i ++ [failureLine i failure] := by
  simp [failureLines, List.range_succ, List.filterMap_append, h]

/-- A success adds none. -/
theorem failureLines_succ_of_ok {reply : String} (h : outcomes i = .ok reply) :
    failureLines outcomes (i + 1) = failureLines outcomes i := by
  simp [failureLines, List.range_succ, List.filterMap_append, h]

/-- A session in which so many attempts have failed since another one, each of them logged and
followed by a pause. -/
structure Failing (policy : RetryPolicy) (outcomes : ℕ → Except Failure String)
    (made : ℕ → Session → Prop) (s : Session) (i : ℕ) (t : Session) : Prop where
  made : made i t
  errors_eq : t.errors = s.errors ++ failureLines outcomes i
  waits_eq : t.waits = s.waits ++ List.replicate (failureLines outcomes i).length policy.pause
  stopped_iff : policy.stopped t = true ↔ policy.stopped s = true ∨ policy.stopWait s ≤ i
  waitsLeft_eq : policy.endsAtShutdown = true → t.waitsLeft = s.waitsLeft.map (· - (i : Int))

/-- At the beginning no attempt has failed. -/
theorem failing_zero (h : made 0 s) : Failing policy outcomes made s 0 s where
  made := h
  errors_eq := (List.append_nil _).symm
  waits_eq := (List.append_nil _).symm
  stopped_iff := by
    have hpos : 0 < policy.stopWait s := stopWait_pos
    simp [hpos.ne']
  waitsLeft_eq _ := by cases s.waitsLeft <;> simp

/-- Whether the attempts have been ended after a pause: before it, or in it. -/
theorem stopped_afterRest :
    policy.stopped (policy.afterRest t) = true ↔
      policy.stopped t = true ∨ policy.endsAtShutdown = true ∧ t.waitsLeft = some 1 := by
  unfold stopped afterRest
  cases policy.endsAtShutdown with
  | false => simp
  | true => simp [Session.afterWait]

/-- What a pause leaves alone. -/
theorem exists_afterRest (policy : RetryPolicy) (t : Session) :
    ∃ shutdown waitsLeft, policy.afterRest t =
        { t with waits := t.waits ++ [policy.pause], shutdown, waitsLeft } ∧
      (policy.endsAtShutdown = true → waitsLeft = t.waitsLeft.map (· - 1)) := by
  unfold afterRest
  cases policy.endsAtShutdown with
  | false => exact ⟨t.shutdown, t.waitsLeft, rfl, by simp⟩
  | true => exact ⟨_, _, rfl, fun _ => rfl⟩

/-- One more attempt that fails. -/
theorem Failing.succ (h : Failing policy outcomes made s i t) (hquery : Plays query outcomes made)
    {failure : Failure} (hfailure : outcomes i = .error failure) :
    Failing policy outcomes made s (i + 1)
      (policy.afterFailure i failure (query.outcome t).2) := by
  obtain ⟨hshutdown, hleft, hwaits, herrors⟩ := hquery.keeps i t h.made
  have hmade := hquery.made_succ i t h.made
  generalize (query.outcome t).2 = u at hshutdown hleft hwaits herrors hmade ⊢
  have hstopped : policy.stopped (u.write (failureLine i failure)) = policy.stopped t :=
    congrArg (policy.endsAtShutdown && ·) hshutdown
  obtain ⟨shutdown, waitsLeft, hrest, hwaitsLeft⟩ :=
    policy.exists_afterRest (u.write (failureLine i failure))
  refine ⟨?_, ?_, ?_, ?_, ?_⟩
  · unfold afterFailure
    rw [hrest]
    exact hquery.made_aside _ u _ _ _ _ hmade
  · have herror : (policy.afterFailure i failure u).errors =
        u.errors ++ [failureLine i failure] := by
      unfold afterFailure
      rw [hrest]
      exact List.filter_append _ _
    rw [herror, herrors, h.errors_eq, failureLines_succ_of_error hfailure, List.append_assoc]
  · have hwaited : (policy.afterFailure i failure u).waits = u.waits ++ [policy.pause] := by
      unfold afterFailure
      rw [hrest]
      rfl
    rw [hwaited, hwaits, h.waits_eq, failureLines_succ_of_error hfailure, List.length_append,
      List.length_singleton, List.replicate_succ', List.append_assoc]
  · -- The shutdown is requested in this pause if it is the one after which no wait is left.
    have hlast : policy.endsAtShutdown = true ∧ u.waitsLeft = some 1 ↔
        policy.stopWait s = (i + 1 : ℕ) := by
      rw [stopWait_eq_succ_iff]
      refine and_congr_right fun hpolicy => ?_
      rw [hleft, h.waitsLeft_eq hpolicy]
      cases s.waitsLeft with
      | none => simp
      | some n =>
        rw [Option.map_some, Option.some_inj, Option.some_inj]
        omega
    unfold afterFailure
    rw [stopped_afterRest, hstopped, h.stopped_iff, stopWait_le_succ_iff, ← hlast, or_assoc]
    rfl
  · intro hpolicy
    unfold afterFailure
    rw [hrest]
    show waitsLeft = _
    rw [hwaitsLeft hpolicy]
    show u.waitsLeft.map (· - 1) = _
    rw [hleft, h.waitsLeft_eq hpolicy, Option.map_map]
    congr 1
    funext n
    show n - (i : Int) - 1 = n - ((i + 1 : ℕ) : Int)
    omega

/-- As long as no shutdown has been requested, the attempts go on. -/
theorem Failing.running (h : Failing policy outcomes made s i t) (hs : policy.stopped s = false)
    (hi : (i : ℕ∞) < policy.stopWait s) : policy.stopped t = false := by
  rw [Bool.eq_false_iff, ne_eq, h.stopped_iff, not_or]
  exact ⟨Bool.eq_false_iff.mp hs, not_le.mpr hi⟩

/-- The next attempt, if it fails. -/
theorem Failing.outcome_error (h : Failing policy outcomes made s i t)
    (hquery : Plays query outcomes made) (hrunning : policy.stopped t = false) {failure : Failure}
    (hfailure : outcomes i = .error failure) (left : ℕ) :
    (policy.attempts query read i (left + 1)).outcome t =
      if policy.stopped (policy.afterFailure i failure (query.outcome t).2) then
        (.error (.price .shuttingDown), policy.afterFailure i failure (query.outcome t).2)
      else (policy.attempts query read (i + 1) left).outcome
        (policy.afterFailure i failure (query.outcome t).2) := by
  have hfails : query.outcome t = (.error failure, (query.outcome t).2) :=
    Prod.ext ((hquery.outcome_eq i t h.made).trans hfailure) rfl
  rw [outcome_attempts, hrunning, if_neg Bool.false_ne_true, hfails]

/-- The next attempt, if it is answered. -/
theorem Failing.outcome_ok (h : Failing policy outcomes made s i t)
    (hquery : Plays query outcomes made) (hrunning : policy.stopped t = false) {reply : String}
    (hreply : outcomes i = .ok reply) (left : ℕ) :
    (policy.attempts query read i (left + 1)).outcome t = (read reply, (query.outcome t).2) := by
  have hanswers : query.outcome t = (.ok reply, (query.outcome t).2) :=
    Prod.ext ((hquery.outcome_eq i t h.made).trans hreply) rfl
  rw [outcome_attempts, hrunning, if_neg Bool.false_ne_true, hanswers]

/-! ## How the attempts end -/

/-- What a session tells of the queries that have been made since another one: how many there were,
and that each one that failed has been logged and followed by a pause. -/
structure Tells (policy : RetryPolicy) (outcomes : ℕ → Except Failure String)
    (made : ℕ → Session → Prop) (s : Session) (queries : ℕ) (t : Session) : Prop where
  made : made queries t
  errors_eq : t.errors = s.errors ++ failureLines outcomes queries
  waits_eq : t.waits = s.waits ++ List.replicate (failureLines outcomes queries).length policy.pause

/-- Attempts that have failed are told: made, logged, and followed by their pauses. -/
theorem Failing.tells (h : Failing policy outcomes made s i t) :
    Tells policy outcomes made s i t :=
  ⟨h.made, h.errors_eq, h.waits_eq⟩

/-- An answered query is neither logged as an error nor followed by a pause. -/
theorem Failing.tells_of_ok (h : Failing policy outcomes made s i t)
    (hquery : Plays query outcomes made) {reply : String} (hreply : outcomes i = .ok reply) :
    Tells policy outcomes made s (i + 1) (query.outcome t).2 := by
  obtain ⟨-, -, hwaits, herrors⟩ := hquery.keeps i t h.made
  refine ⟨hquery.made_succ i t h.made, ?_, ?_⟩
  · rw [herrors, h.errors_eq, failureLines_succ_of_ok hreply]
  · rw [hwaits, h.waits_eq, failureLines_succ_of_ok hreply]

section Ends

variable {n : ℕ} (hquery : Plays query outcomes made) (hs : made 0 s)
  (hrunning : 0 < n → policy.stopped s = false) (read : String → Except Failure α)

include hquery hs hrunning

/-- As long as no shutdown ends the attempts, they fail one by one. -/
theorem exists_failing (hi : i ≤ n) (hfailures : (i : ℕ∞) ≤ failuresFirst outcomes)
    (hstop : (i : ℕ∞) < policy.stopWait s) :
    ∃ t, Failing policy outcomes made s i t ∧ (0 < n → policy.stopped t = false) ∧
      (policy.attempts query read 0 n).outcome s =
        (policy.attempts query read i (n - i)).outcome t := by
  induction i with
  | zero => exact ⟨s, failing_zero hs, hrunning, rfl⟩
  | succ i ih =>
    have hlt : (i : ℕ∞) < (i + 1 : ℕ) := Nat.cast_lt.mpr (Nat.lt_succ_self i)
    obtain ⟨t, ht, hcalm, hsame⟩ := ih (by omega) (hlt.le.trans hfailures) (hlt.trans hstop)
    obtain ⟨failure, hfailure⟩ := exists_failure_of_lt (hlt.trans_le hfailures)
    have hnext := ht.succ hquery hfailure
    have hgoesOn := hnext.running (hrunning (by omega)) hstop
    refine ⟨_, hnext, fun _ => hgoesOn, ?_⟩
    have hleft : n - i = (n - (i + 1)) + 1 := by omega
    rw [hsame, hleft, ht.outcome_error hquery (hcalm (by omega)) hfailure, hgoesOn,
      if_neg Bool.false_ne_true]

/-- A shutdown is requested in the pause behind an attempt. -/
theorem attempts_stopped (hi : i < n) (hfailures : (i + 1 : ℕ) ≤ failuresFirst outcomes)
    (hstop : policy.stopWait s = (i + 1 : ℕ)) :
    ∃ t, (policy.attempts query read 0 n).outcome s = (.error (.price .shuttingDown), t) ∧
      Tells policy outcomes made s (i + 1) t := by
  have hlt : (i : ℕ∞) < (i + 1 : ℕ) := Nat.cast_lt.mpr (Nat.lt_succ_self i)
  obtain ⟨t, ht, hcalm, hsame⟩ := exists_failing hquery hs hrunning read hi.le
    (hlt.le.trans hfailures) (hlt.trans_eq hstop.symm)
  obtain ⟨failure, hfailure⟩ := exists_failure_of_lt (hlt.trans_le hfailures)
  have hlast := ht.succ hquery hfailure
  refine ⟨_, ?_, hlast.tells⟩
  have hleft : n - i = (n - (i + 1)) + 1 := by omega
  rw [hsame, hleft, ht.outcome_error hquery (hcalm (by omega)) hfailure,
    if_pos (hlast.stopped_iff.mpr (.inr hstop.le))]

/-- An attempt is answered. -/
theorem attempts_answered (hi : i < n) (hfailures : failuresFirst outcomes = i)
    (hstop : (i : ℕ∞) < policy.stopWait s) :
    ∃ reply t, outcomes i = .ok reply ∧
      (policy.attempts query read 0 n).outcome s = (read reply, t) ∧
      Tells policy outcomes made s (i + 1) t := by
  obtain ⟨t, ht, hcalm, hsame⟩ := exists_failing hquery hs hrunning read hi.le
    hfailures.ge hstop
  obtain ⟨reply, hreply⟩ := exists_answer_of_eq hfailures
  refine ⟨reply, _, hreply, ?_, ht.tells_of_ok hquery hreply⟩
  have hleft : n - i = (n - (i + 1)) + 1 := by omega
  rw [hsame, hleft, ht.outcome_ok hquery (hcalm (by omega)) hreply]

/-- All attempts fail. -/
theorem attempts_exhausted (hfailures : (n : ℕ∞) ≤ failuresFirst outcomes)
    (hstop : (n : ℕ∞) < policy.stopWait s) :
    ∃ t, (policy.attempts query read 0 n).outcome s =
        (.error (.price (.retriesExhausted policy.maxAttempts)), t) ∧
      Tells policy outcomes made s n t := by
  obtain ⟨t, ht, -, hsame⟩ := exists_failing hquery hs hrunning read le_rfl
    hfailures hstop
  refine ⟨t, ?_, ht.tells⟩
  rw [hsame, Nat.sub_self]
  rfl

end Ends

/-- How a query that is tried more than once ends.

If a shutdown has been requested before the first of `n` attempts, none is made.  Otherwise it
depends on the number of failures before the first answer and on the pause in which a shutdown is
requested: the shutdown ends the attempts if it comes no later than the pause behind the last
failure, the first answer is read if it comes within the attempts, and without either all of them
fail.  Each failed query, and nothing else, is logged as an error and followed by a pause. -/
theorem run_ends {n : ℕ} (hn : policy.maxAttempts = n) (hquery : Plays query outcomes made)
    (read : String → Except Failure α) (hs : made 0 s) :
    let run := (policy.run query read).outcome s
    let failures := failuresFirst outcomes
    let stop := policy.stopWait s
    ∃ queries : ℕ, made queries run.2 ∧
      run.2.errors = s.errors ++ failureLines outcomes queries ∧
      run.2.waits =
        s.waits ++ List.replicate (failureLines outcomes queries).length policy.pause ∧
      (1 ≤ n ∧ policy.stopped s = true →
        queries = 0 ∧ run.1 = .error (.price .shuttingDown)) ∧
      (¬ (1 ≤ n ∧ policy.stopped s = true) →
        (stop ≤ min failures n →
          stop = queries ∧ run.1 = .error (.price .shuttingDown)) ∧
        (min failures n < stop → failures < n → ∃ (i : ℕ) (reply : String), failures = i ∧
          queries = i + 1 ∧ outcomes i = .ok reply ∧ run.1 = read reply) ∧
        (min failures n < stop → n ≤ failures →
          queries = n ∧ run.1 = .error (.price (.retriesExhausted n)))) := by
  intro run failures stop
  have hrun : run = (policy.attempts query read 0 n).outcome s := by
    show (policy.attempts query read 0 policy.maxAttempts.toNat).outcome s = _
    rw [hn]
    rfl
  by_cases hstart : 1 ≤ n ∧ policy.stopped s = true
  · obtain ⟨m, rfl⟩ : ∃ m, n = m + 1 := ⟨n - 1, by omega⟩
    rw [outcome_attempts, if_pos hstart.2] at hrun
    rw [hrun]
    have htells : Tells policy outcomes made s 0 s := (failing_zero hs).tells
    exact ⟨0, htells.made, htells.errors_eq, htells.waits_eq, fun _ => ⟨rfl, rfl⟩,
      fun h => absurd hstart h⟩
  · have hrunning : 0 < n → policy.stopped s = false := by
      intro hpos
      exact Bool.eq_false_iff.mpr fun hstopped => hstart ⟨hpos, hstopped⟩
    -- Which of the three numbers decides.
    rcases le_or_gt stop (min failures n) with hstop | hstop
    · obtain ⟨hfailures, hattempts⟩ := le_min_iff.mp hstop
      obtain ⟨i, hi⟩ : ∃ i : ℕ, stop = (i + 1 : ℕ) := exists_stopWait_eq_succ hattempts
      rw [hi] at hfailures hattempts
      obtain ⟨t, hends, htells⟩ :=
        attempts_stopped hquery hs hrunning read (Nat.cast_le.mp hattempts) hfailures hi
      rw [hrun, hends]
      exact ⟨i + 1, htells.made, htells.errors_eq, htells.waits_eq, fun h => absurd h hstart,
        fun _ => ⟨fun _ => ⟨hi, rfl⟩, fun h => absurd hstop (not_le.mpr h),
          fun h => absurd hstop (not_le.mpr h)⟩⟩
    · rcases lt_or_ge failures n with hanswered | hexhausted
      · obtain ⟨i, hi⟩ := ENat.ne_top_iff_exists.mp (hanswered.trans (ENat.natCast_lt_top n)).ne
        rw [min_eq_left hanswered.le, ← hi] at hstop
        rw [← hi, Nat.cast_lt] at hanswered
        obtain ⟨reply, t, hreply, hends, htells⟩ :=
          attempts_answered hquery hs hrunning read hanswered hi.symm hstop
        rw [hrun, hends]
        refine ⟨i + 1, htells.made, htells.errors_eq, htells.waits_eq, fun h => absurd h hstart,
          fun _ => ⟨fun h => ?_, fun _ _ => ⟨i, reply, hi.symm, rfl, hreply, rfl⟩, fun _ h => ?_⟩⟩
        · exact absurd (h.trans (min_le_left _ _)) (not_le.mpr (hi ▸ hstop))
        · exact absurd h (not_le.mpr (hi ▸ Nat.cast_lt.mpr hanswered))
      · rw [min_eq_right hexhausted] at hstop
        obtain ⟨t, hends, htells⟩ :=
          attempts_exhausted hquery hs hrunning read hexhausted hstop
        rw [hrun, hends, hn]
        refine ⟨n, htells.made, htells.errors_eq, htells.waits_eq, fun h => absurd h hstart,
          fun _ => ⟨fun h => ?_, fun _ h => ?_, fun _ _ => ⟨rfl, rfl⟩⟩⟩
        · exact absurd (h.trans (min_le_right _ _)) (not_le.mpr hstop)
        · exact absurd h (not_lt.mpr hexhausted)

/-- A service fails three times.  With three attempts allowed all of them fail; if a shutdown is
requested in the second pause, the third one is not made. -/
theorem run_ends_threeFailures :
    let settings : QuerySettings := { retry := { maxAttempts := 3 } }
    let query := settings.fetch "CoinDesk" "https://api.coindesk.com" []
    let replies : HttpOutcomes := { listed := [
      { body := .error "reset" }, { body := .error "unavailable" }, { body := .error "reset" }] }
    let run := fun waitsLeft : Option Int =>
      (settings.retry.run query (fun body => .ok body)).outcome { replies, waitsLeft }
    (run (some 2)).1 = .error (.price .shuttingDown) ∧ (run (some 2)).2.requests.length = 2 ∧
      (run none).1 = .error (.price (.retriesExhausted 3)) ∧
      (run none).2.requests.length = 3 ∧
      (run none).2.waits = List.replicate 3 settings.retry.pause := by
  intro settings query replies run
  have hquery : Plays query (fun i => (replies.drop i).next.result)
      fun i s => s.replies = replies.drop i ∧ s.requests.length = 0 + i :=
    settings.plays_fetch _ _ _ (by decide) 0
  have hfailures : (3 : ℕ) ≤ failuresFirst (fun i => (replies.drop i).next.result) :=
    le_failuresFirst (by decide)
  have hends := fun waitsLeft : Option Int =>
    run_ends (rfl : settings.retry.maxAttempts = (3 : ℕ)) hquery (fun body => .ok body)
      (s := { replies, waitsLeft }) ⟨rfl, rfl⟩
  obtain ⟨asked, ⟨-, hasked⟩, -, -, -, hstopped⟩ := hends (some 2)
  obtain ⟨tried, ⟨-, htried⟩, -, hwaits, -, hexhausted⟩ := hends none
  have htwo : (2 : ℕ∞) ≤ (3 : ℕ) := by decide
  have hcalm : ¬ (1 ≤ 3 ∧ (false : Bool) = true) := by decide
  obtain ⟨hstop, hfirst⟩ := (hstopped hcalm).1 (le_min (htwo.trans hfailures) htwo)
  have hmin : min (failuresFirst fun i => (replies.drop i).next.result) (3 : ℕ) < ⊤ :=
    min_lt_of_right_lt (ENat.natCast_lt_top 3)
  obtain ⟨hthree, hlast⟩ := (hexhausted hcalm).2.2 hmin hfailures
  rw [hthree] at htried hwaits
  refine ⟨hfirst, ?_, hlast, htried, hwaits⟩
  have hqueries : asked = 2 := (Nat.cast_inj.mp hstop).symm
  rw [hqueries] at hasked
  exact hasked

end RetryPolicy

end NodeLedger
