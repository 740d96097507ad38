import NodeLedger.Proofs.Price.Shutdown

/-!
# Requests that are sent to the price services

A query that fails is tried again, so it may send more than one request.  All of them are alike,
there are no more of them than attempts are allowed, and a query that is answered has sent at least
one.  Queries made one after the other send their requests in this order.

Main results:

- Definition `Action.Asks`: what an action sends.  Theorem `RetryPolicy.asks_run`: what a query sends
  that is tried more than once.
- Definition `InBatches` and theorem `Action.Asks.mapM`: what queries send one after the other.
-/

namespace NodeLedger

open List NodeLedger.Action

variable {α β : Type} {kind : HttpRequest → Prop} {most : Nat}

/-- An action sends at most so many requests, all of a kind, and at least one if it ends with a
value. -/
def Action.Asks (kind : HttpRequest → Prop) (most : Nat) (act : Action α) : Prop :=
  ∀ s, ∃ batch, (act.outcome s).2.requests = s.requests ++ batch ∧ batch.length ≤ most ∧
    (∀ request ∈ batch, kind request) ∧ ∀ a, (act.outcome s).1 = .ok a → batch ≠ []

/-! ## Queries -/

theorem Http.asks_fetch {url : String} {params : Value} {timeout : Int}
    (h : ∀ afterShutdown, kind ⟨url, params, timeout, afterShutdown⟩) :
    Asks kind 1 (Http.fetch url params timeout) := by
  intro s
  rw [outcome_fetch]
  refine ⟨[⟨url, params, timeout, s.shutdown⟩], rfl, Nat.le_refl 1, ?_, by simp⟩
  intro request hrequest
  rw [List.mem_singleton.mp hrequest]
  exact h s.shutdown

theorem QuerySettings.asks_fetch {settings : QuerySettings} {service url : String}
    {params : List (String × Value)}
    (h : ∀ timeout afterShutdown, kind ⟨url, .object params, timeout, afterShutdown⟩) :
    Asks kind 1 (settings.fetch service url params) := by
  intro s
  exact Http.asks_fetch (h settings.timeout) (s.write _)

/-! ## Queries that are tried more than once -/

namespace Action

/-- What comes before a query, and sends nothing itself, does not matter to what is sent. -/
theorem asks_bind_of_keeps {act : Action α} {next : α → Action β}
    (hact : Keeps Session.requests act)
    (hnext : ∀ a s t, Ends act s a t → Asks kind most (next a)) :
    Asks kind most (act >>= next) := by
  intro s
  have hkept := hact s
  rw [outcome_bind]
  rcases h : act.outcome s with ⟨failure | a, t⟩ <;> rw [h] at hkept
  · exact ⟨[], by simpa using hkept, by simp, by simp, by simp⟩
  · obtain ⟨batch, hsent, hbatch⟩ := hnext a s t h t
    dsimp only at hkept ⊢
    rw [hkept] at hsent
    exact ⟨batch, hsent, hbatch⟩

/-- Nor does what comes behind it. -/
theorem Asks.bind_of_keeps {act : Action α} {next : α → Action β} (h : Asks kind most act)
    (hnext : ∀ a, Keeps Session.requests (next a)) : Asks kind most (act >>= next) := by
  intro s
  obtain ⟨batch, hsent, hmost, hkind, hanswered⟩ := h s
  rw [outcome_bind]
  rcases hact : act.outcome s with ⟨failure | a, t⟩ <;> rw [hact] at hsent hanswered
  · exact ⟨batch, hsent, hmost, hkind, by simp⟩
  · exact ⟨batch, (hnext a t).trans hsent, hmost, hkind, fun _ _ => hanswered a rfl⟩

/-- After a query that fails more may be sent. -/
theorem Asks.attempt_bind {query : Action β} {next : Except Failure β → Action α}
    (h : Asks kind 1 query) (hanswered : ∀ reply, Keeps Session.requests (next (.ok reply)))
    (hfailed : ∀ failure, Asks kind most (next (.error failure))) :
    Asks kind (most + 1) (attempt query >>= next) := by
  intro s
  obtain ⟨batch, hsent, hone, hkind, hlast⟩ := h s
  rw [outcome_bind, outcome_attempt]
  rcases hquery : query.outcome s with ⟨failure | reply, t⟩ <;> rw [hquery] at hsent hlast
  · obtain ⟨more, hmore, hmost, hkinds, hlast⟩ := hfailed failure t
    refine ⟨batch ++ more, ?_, ?_, ?_, ?_⟩
    · rw [← List.append_assoc, ← hsent]
      exact hmore
    · rw [List.length_append]
      omega
    · intro request hrequest
      exact (List.mem_append.mp hrequest).elim (hkind request) (hkinds request)
    · intro a ha
      exact List.append_ne_nil_of_right_ne_nil batch (hlast a ha)
  · refine ⟨batch, (hanswered reply t).trans hsent, by omega, hkind, ?_⟩
    intro _ _
    exact hlast reply rfl

end Action

namespace RetryPolicy

variable (policy : RetryPolicy)

theorem keeps_requests_requested : Keeps Session.requests Shutdown.requested :=
  keeps_get.bind fun s => keeps_pure s.shutdown

theorem actionRule_requests : ActionRule (Keeps Session.requests) :=
  actionRule_keeps fun _ _ => rfl

theorem keeps_requests_checkRunning : Keeps Session.requests policy.checkRunning :=
  policy.holds_checkRunning actionRule_requests keeps_requests_requested

theorem keeps_requests_rest : Keeps Session.requests policy.rest := by
  have hwait : Keeps Session.requests (Shutdown.wait policy.pause) := by
    unfold Shutdown.wait
    exact Keeps.bind (fun s => rfl) fun _ => keeps_requests_requested
  exact policy.holds_rest actionRule_requests hwait (keeps_modify fun _ => rfl)

/-- The attempts that are left send one request each at most. -/
theorem asks_attempts {query : Action String} (h : Asks kind 1 query)
    (read : String → Except Failure α) (done left : Nat) :
    Asks kind left (policy.attempts query read done left) := by
  induction left generalizing done with
  | zero => exact fun s => ⟨[], (List.append_nil _).symm, by simp, by simp, by simp [attempts]⟩
  | succ left ih =>
    unfold attempts
    apply asks_bind_of_keeps policy.keeps_requests_checkRunning
    intro _ _ _ _
    apply h.attempt_bind
    · intro reply
      exact keeps_lift (read reply)
    · intro failure
      have hlog : Keeps Session.requests (log .error
          ("http get attempt: " ++ toString done ++ " failed: " ++ failure.message)) :=
        keeps_modify fun _ => rfl
      apply asks_bind_of_keeps hlog
      intro _ _ _ _
      exact asks_bind_of_keeps policy.keeps_requests_rest fun _ _ _ _ => ih (done + 1)

/-- A query that is tried more than once sends as many requests as there are attempts at most. -/
theorem asks_run {query : Action String} (h : Asks kind 1 query)
    (read : String → Except Failure α) :
    Asks kind policy.maxAttempts.toNat (policy.run query read) :=
  policy.asks_attempts h read _ _

end RetryPolicy

/-! ## Queries one after the other -/

/-- Requests that are sent for some items, one item after the other: for each of them at least one
and at most so many, all of the kind that goes with it. -/
def InBatches (kind : α → HttpRequest → Prop) (most : Nat) (items : List α)
    (sent : List HttpRequest) : Prop :=
  ∃ batches, sent = batches.flatten ∧
    Forall₂ (fun item batch => batch ≠ [] ∧ batch.length ≤ most ∧
      ∀ request ∈ batch, kind item request) items batches

/-- Queries that are made for the items of a list, and answered, send their requests one item after
the other. -/
theorem Action.Asks.mapM {kind : α → HttpRequest → Prop} {act : α → Action β}
    (h : ∀ a, Asks (kind a) most (act a)) {as : List α} {bs : List β} {s t : Session}
    (hends : Ends (as.mapM act) s bs t) :
    ∃ sent, t.requests = s.requests ++ sent ∧ InBatches kind most as sent := by
  induction as generalizing s bs with
  | nil =>
    rw [List.mapM_nil, ends_pure] at hends
    exact ⟨[], by simp [hends.2], [], rfl, .nil⟩
  | cons a as ih =>
    rw [List.mapM_cons] at hends
    simp only [ends_bind, ends_pure] at hends
    obtain ⟨b, u, hb, rest, v, hrest, rfl, rfl⟩ := hends
    obtain ⟨batch, hsent, hmost, hkind, hanswered⟩ := h a s
    rw [hb] at hsent hanswered
    obtain ⟨_, hmore, batches, rfl, hbatches⟩ := ih hrest
    refine ⟨batch ++ batches.flatten, ?_, batch :: batches, rfl, .cons ⟨?_, hmost, hkind⟩ hbatches⟩
    · rw [hmore, hsent, List.append_assoc]
    · exact hanswered b rfl

end NodeLedger
