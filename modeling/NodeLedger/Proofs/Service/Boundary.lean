import NodeLedger.Proofs.Price.Cause
import NodeLedger.Proofs.Report.Cause
import NodeLedger.Proofs.Request.Cause
import NodeLedger.Proofs.Service.Quotes

/-!
# What calls answer, and what they pass on

A call that fails for a reason that concerns its caller is answered with the reason.  Which failures
those are is different for a report and for the other calls, and no call answers all of them: a
value of an unexpected kind, one without a part that is needed, and numbers that cannot be computed
with are passed on.

Main results:

- Definition `Service.Call.work`: what a call does, before any failure of it is answered.
- Definition `Service.Call.passesOn`: the failures that a call passes on.
- Theorem `Service.Call.answered_or_passedOn`: every call, if its arguments have the right names, is
  answered with what its work gives, or with the reason for which the work fails, unless the failure
  is one that is passed on.
- Theorem `Service.Call.fails_for_oddReply`: calls of all three kinds fail if a price service
  answers with a list.
-/

namespace NodeLedger.Service

open NodeLedger.Action NodeLedger.Causes

/-- The calls that the service takes. -/
inductive Call where
  | report
  | exchangeRates
  | fiatEstimate
  deriving DecidableEq, Repr

namespace Call

/-- What the caller has to give. -/
def required : Call → List String
  | report => requiredArguments
  | exchangeRates => requiredForRates
  | fiatEstimate => requiredForEstimate

/-- What the caller may give. -/
def optional : Call → List String
  | report => optionalArguments
  | exchangeRates => optionalForRates
  | fiatEstimate => optionalForEstimate

/-- Answer a call. -/
def run [Text.CharacterNames] : Call → Option Settings → Value → Action Value
  | report => Service.report
  | exchangeRates => Service.exchangeRates
  | fiatEstimate => Service.fiatEstimate

/-- The report for a request, before any failure is answered. -/
def reportWork (settings : Settings) (request : ReportRequest) : Action Value := do
  Node.forget
  let entries ← Node.source.report request (priceSource settings request.priceConfig)
  return reportAnswer request entries

/-- What a call does, before any failure is answered. -/
def work [Text.CharacterNames] : Call → Settings → Value → Action Value
  | report, settings, args => do
    let params ← reportParams args
    reportWork settings (← ReportRequest.ofParams settings params (← Action.now))
  | exchangeRates, settings, args => ratesAt settings args
  | fiatEstimate, settings, args => do
    match ← quote? settings args with
    | none => return refusal "amount_msat must be non-negative"
    | some quote => estimateAnswer quote

/-- Whether an answer holds what a call asks for. -/
def IsResult (answer : Value) : Call → Prop
  | report => ∃ request entries, answer = reportAnswer request entries
  | exchangeRates => ∃ prices, answer = ratesAnswer prices
  | fiatEstimate => ∃ quote, estimateAnswer quote = .ok answer

/-- Whether a call answers a failure of its work. -/
def answers : Call → Failure → Bool
  | report => isReportFailure
  | exchangeRates => isPriceFailure
  | fiatEstimate => isPriceFailure

/-- What a call comes to for what its work comes to. -/
def handled (call : Call) : Except Failure Value → Except Failure Value
  | .ok answer => .ok answer
  | .error failure =>
    if call.answers failure then .ok (refusal failure.message) else .error failure

/-- Whether a call passes a failure on: numbers that cannot be computed with, and values that are
not as expected; but where prices are looked up, a value that is merely of another kind than
expected is answered. -/
def passesOn (call : Call) : Failure → Bool
  | .shape fault => call == .report || !isKindFault fault
  | .decimal _ => true
  | .oversize _ => true
  | _ => false

variable {call : Call} {settings : Settings} {args answer : Value} {s t : Session}

/-- What is not answered is passed on, unless a connection is lost. -/
theorem passesOn_of_not_answers {failure : Failure} (hreceived : received.includes failure)
    (hanswers : call.answers failure = false) : call.passesOn failure = true := by
  cases call <;> cases failure <;>
    simp_all [passesOn, answers, isPriceFailure, isReportFailure, isValueFailure, received]

/-! ## What the work fails for -/

theorem covers_priceRequest : received.Covers (priceRequest args) := by
  simp [priceRequest]

theorem coversRun_pricesFor (request : PriceRequest) (period : Period) (times : List Int) :
    received.CoversRun (pricesFor settings request period times) s := by
  unfold pricesFor priceSource
  simp only [coversRun_bind, coversRun_lift, PriceRequest.covers_config, true_and, ends_lift]
  rintro config t -
  refine ⟨by simp, ?_⟩
  rintro source u ⟨hmake, -⟩
  exact (PriceSource.coveredBy_of_make hmake).coversRun_pricesAt times

theorem coversRun_ratesAt : received.CoversRun (ratesAt settings args) s := by
  unfold ratesAt
  simp only [coversRun_bind, coversRun_lift]
  refine ⟨by simp, fun given t _ => ⟨by simp [readTimes], fun times u _ => ?_⟩⟩
  split
  · simp [covers_priceRequest, coversRun_pricesFor]
  · simp

theorem coversRun_quote : received.CoversRun (quote? settings args) s := by
  simp [quote?, covers_priceRequest, coversRun_pricesFor]

/-- The prices of a report are looked up, and so is each of them, without losing a connection. -/
theorem coversRun_priceLookup (settings : Settings) (request : ReportRequest) (s : Session) :
    let lookup := request.priceLookup (priceSource settings request.priceConfig)
    received.CoversRun lookup s ∧
      ∀ priceAt t, Ends lookup s priceAt t → ∀ time, received.Covers (priceAt time) := by
  unfold ReportRequest.priceLookup priceSource
  dsimp only
  split
  · refine ⟨by simp, ?_⟩
    rintro priceAt t h time
    rw [(ends_pure.mp h).1]
    exact covers_ok _
  · simp only [coversRun_bind, coversRun_lift, coversRun_log, coversRun_pure, ends_bind, ends_lift]
    refine ⟨⟨by simp, ?_⟩, ?_⟩
    · rintro source t ⟨hmake, -⟩
      exact ⟨(PriceSource.coveredBy_of_make hmake).coversRun_prices (by simp),
        fun _ _ _ => by simp⟩
    · rintro priceAt t ⟨source, u, -, series, v, -, _, w, -, h⟩ time
      rw [(ends_pure.mp h).1]
      simp

theorem coversRun_nodeReport (request : ReportRequest) :
    received.CoversRun
      (Node.source.report request (priceSource settings request.priceConfig)) s := by
  obtain ⟨hlookup, hprices⟩ := coversRun_priceLookup settings request s
  unfold NodeSource.report
  rw [coversRun_bind]
  refine ⟨hlookup, fun priceAt t hpriceAt => ?_⟩
  exact Node.coversRun_reportWithPrices fun time _ => hprices priceAt t hpriceAt time

/-- A call may fail for anything but a lost connection. -/
theorem coversRun_work [Text.CharacterNames] : received.CoversRun (call.work settings args) s := by
  cases call with
  | report =>
    simp [work, reportWork, reportParams, covers_priceRequest, Node.forget, coversRun_nodeReport]
  | exchangeRates => exact coversRun_ratesAt
  | fiatEstimate =>
    unfold work
    rw [coversRun_bind]
    refine ⟨coversRun_quote, fun quote t _ => ?_⟩
    cases quote <;> simp [estimateAnswer]

/-! ## What the work gives -/

/-- What the work of a call gives is what has been asked for, or tells what is wrong. -/
theorem isResult_of_work [Text.CharacterNames] (h : Ends (call.work settings args) s answer t) :
    (∃ reason, answer = refusal reason) ∨ call.IsResult answer := by
  cases call with
  | report =>
    unfold work reportWork at h
    simp only [ends_bind, ends_pure] at h
    obtain ⟨_, _, -, _, _, -, request, _, -, _, _, -, entries, _, -, rfl, -⟩ := h
    exact .inr ⟨request, entries, rfl⟩
  | exchangeRates =>
    unfold work ratesAt at h
    simp only [ends_bind] at h
    obtain ⟨given, _, -, times, _, -, h⟩ := h
    split at h
    · simp only [ends_bind, ends_pure] at h
      obtain ⟨request, _, -, prices, _, -, rfl, -⟩ := h
      exact .inr ⟨prices, rfl⟩
    · exact .inl ⟨_, (ends_pure.mp h).1⟩
  | fiatEstimate =>
    unfold work at h
    obtain ⟨quote, u, -, h⟩ := ends_bind.mp h
    cases quote with
    | none => exact .inl ⟨_, (ends_pure.mp h).1⟩
    | some quote => exact .inr ⟨quote, (ends_lift.mp h).1⟩

/-! ## What is answered -/

/-- The arguments of a call have names. -/
theorem exists_object_of_checkArguments {required optional : List String} {args : Value}
    (h : checkArguments required optional args = .ok ()) : ∃ fields, args = .object fields := by
  cases args with
  | object fields => exact ⟨fields, rfl⟩
  | _ => cases h

/-- A call whose arguments have the right names goes on behind the check of them. -/
theorem outcome_checked {required optional : List String} {next : Unit → Action Value}
    (hargs : checkArguments required optional args = .ok ()) :
    ((liftM (checkArguments required optional args) : Action Unit) >>= next).outcome s =
      (next ()).outcome s := by
  rw [hargs, outcome_bind]
  rfl

/-- A failure is answered if it is caught, and passed on if it is not. -/
theorem outcome_caught {caught : Failure → Bool} {failure : Failure}
    (hcaught : caught failure = call.answers failure) :
    ((if caught failure then pure (refusal failure.message) else throw failure :
      Action Value).outcome s).1 = call.handled (.error failure) := by
  rw [hcaught]
  cases hanswers : call.answers failure <;> simp [handled, hanswers]

theorem outcome_exchangeRates [Text.CharacterNames]
    (hargs : checkArguments requiredForRates optionalForRates args = .ok ()) :
    ((Service.exchangeRates (some settings) args).outcome s).1 =
      exchangeRates.handled ((exchangeRates.work settings args).outcome s).1 := by
  have hchecked : (Service.exchangeRates (some settings) args).outcome s =
      (answering (ratesAt settings args)).outcome s := outcome_checked hargs
  rw [hchecked]
  unfold answering work
  simp only [outcome_bind, outcome_attempt]
  cases ((ratesAt settings args).outcome s).1 with
  | ok answer => rfl
  | error failure => exact outcome_caught rfl

/-- The value of an amount fails to be computed for its numbers only, which is passed on. -/
theorem handled_estimateAnswer (quote : Quote) :
    fiatEstimate.handled (estimateAnswer quote) = estimateAnswer quote := by
  have hnumbers : ∀ failure, fiatValue quote.price.perBitcoin quote.amount = .error failure →
      ∃ fault, failure = .decimal fault := by
    intro failure h
    unfold fiatValue at h
    split at h
    · cases h
      exact ⟨_, rfl⟩
    · split at h
      · cases h
        exact ⟨_, rfl⟩
      · cases h
  unfold estimateAnswer
  cases hvalue : fiatValue quote.price.perBitcoin quote.amount with
  | ok value => rfl
  | error failure =>
    obtain ⟨fault, rfl⟩ := hnumbers failure hvalue
    rfl

theorem outcome_fiatEstimate [Text.CharacterNames]
    (hargs : checkArguments requiredForEstimate optionalForEstimate args = .ok ()) :
    ((Service.fiatEstimate (some settings) args).outcome s).1 =
      fiatEstimate.handled ((fiatEstimate.work settings args).outcome s).1 := by
  have hchecked : (Service.fiatEstimate (some settings) args).outcome s =
      (estimate settings args).outcome s := outcome_checked hargs
  rw [hchecked]
  unfold estimate work
  simp only [outcome_bind, outcome_attempt]
  rcases hquote : (quote? settings args).outcome s with ⟨failure | quote, t⟩
  · exact outcome_caught rfl
  · cases quote with
    | none => rfl
    | some quote => exact (handled_estimateAnswer quote).symm

theorem outcome_makeReport (request : ReportRequest) :
    ((makeReport settings request).outcome s).1 =
      report.handled ((reportWork settings request).outcome s).1 := by
  unfold makeReport reportWork
  simp only [outcome_bind, outcome_attempt]
  rcases hforget : Node.forget.outcome s with ⟨failure | _, t⟩
  · cases hforget
  · dsimp only
    rcases (Node.source.report request (priceSource settings request.priceConfig)).outcome t with
      ⟨failure | entries, u⟩
    · cases hanswers : isReportFailure failure with
      | true =>
        simp only [handled, answers, hanswers]
        rfl
      | false => simp [handled, answers, hanswers]
    · rfl

/-- What is wrong with a request for a report is answered as it is for the report. -/
theorem isValueFailure_eq {failure : Failure} (hvalues : values.includes failure) :
    isValueFailure failure = report.answers failure := by
  cases failure <;> simp_all [answers, isReportFailure, values, readings]

theorem outcome_report [Text.CharacterNames]
    (hargs : checkArguments requiredArguments optionalArguments args = .ok ()) :
    ((Service.report (some settings) args).outcome s).1 =
      report.handled ((report.work settings args).outcome s).1 := by
  obtain ⟨fields, rfl⟩ := exists_object_of_checkArguments hargs
  obtain ⟨params, hparams⟩ : ∃ params, reportParams (.object fields) = .ok params :=
    ⟨_, reportParams_object fields⟩
  have hvalues : values.Covers (ReportRequest.ofParams settings params s.now) := by simp
  have hrun : (Service.report (some settings) (.object fields)).outcome s = _ :=
    outcome_checked hargs
  rw [hrun]
  unfold work
  simp only [outcome_bind, outcome_lift, hparams, now, outcome_get, outcome_pure]
  cases hrequest : ReportRequest.ofParams settings params s.now with
  | ok request => exact outcome_makeReport request
  | error failure =>
    rw [hrequest, covers_error] at hvalues
    exact outcome_caught (isValueFailure_eq hvalues)

/-- A call comes to what its work comes to, but that some failures are answered. -/
theorem outcome_run [Text.CharacterNames]
    (hargs : checkArguments call.required call.optional args = .ok ()) :
    ((call.run (some settings) args).outcome s).1 =
      call.handled ((call.work settings args).outcome s).1 := by
  cases call with
  | report => exact outcome_report hargs
  | exchangeRates => exact outcome_exchangeRates hargs
  | fiatEstimate => exact outcome_fiatEstimate hargs

/-- Every call whose arguments have the right names comes to what its work comes to, but that some
failures are answered with their reason.  So it is answered, with what it asks for or with a reason
why not, or it fails for what it passes on: its caller is told of all that is wrong with a request,
with the records of the node or with the prices, of what the node refuses, and of lost connections,
but not of all that is wrong with the values that he gives or that are received. -/
theorem answered_or_passedOn [Text.CharacterNames] (call : Call) (settings : Settings)
    (args : Value) (s : Session) (hargs : checkArguments call.required call.optional args = .ok ()) :
    let result := ((call.run (some settings) args).outcome s).1
    result = call.handled ((call.work settings args).outcome s).1 ∧
      ((∃ answer, result = .ok answer ∧
        ((∃ reason, answer = refusal reason) ∨ call.IsResult answer)) ∨
      ∃ failure, result = .error failure ∧ call.passesOn failure = true) := by
  intro result
  have hrun : result = call.handled ((call.work settings args).outcome s).1 := outcome_run hargs
  refine ⟨hrun, ?_⟩
  cases hwork : ((call.work settings args).outcome s).1 with
  | ok answer =>
    rw [hwork] at hrun
    exact .inl ⟨answer, hrun, isResult_of_work (ends_of_outcome hwork)⟩
  | error failure =>
    rw [hwork] at hrun
    cases hanswers : call.answers failure with
    | true =>
      simp only [handled, hanswers, if_true] at hrun
      exact .inl ⟨_, hrun, .inl ⟨_, rfl⟩⟩
    | false =>
      simp only [handled, hanswers, Bool.false_eq_true, if_false] at hrun
      exact .inr ⟨failure, hrun, passesOn_of_not_answers (coversRun_work failure hwork) hanswers⟩

end Call

/-! ## An odd answer -/

/-- A session in which a price service answers with an empty list. -/
def oddSession : Session where
  now := 1000000
  replies := { listed := [{ body := .ok "[]" }] }

/-- The call for a report from the beginning fails there, for what it passes on. -/
theorem Call.answered_or_passedOn_oddSession :
    let args : Value := .object [("start_time", .int 0)]
    let result := ((report.run (some {}) args).outcome oddSession).1
    checkArguments report.required report.optional args = .ok () ∧
      result = report.handled ((report.work {} args).outcome oddSession).1 ∧
      ∃ failure, result = .error failure ∧ report.passesOn failure = true := by
  intro args result
  have hargs : checkArguments report.required report.optional args = .ok () := rfl
  obtain ⟨hwork, ⟨_, hanswer, -⟩ | hfails⟩ := answered_or_passedOn report {} args oddSession hargs
  · cases hanswer
  · exact ⟨hargs, hwork, hfails⟩

/-- All three calls fail if a price service answers with a list, which has no fields.  A call for a
report also fails for categories that are no list, even if it needs no prices. -/
theorem Call.fails_for_oddReply :
    let noFields : Failure := .shape (.missingMember "list" "get")
    ((report.run (some {}) (.object [("start_time", .int 0)])).outcome oddSession).1 =
        .error noFields ∧
      ((exchangeRates.run (some {}) (.object [("timestamps", .list [.int 500000])])).outcome
        oddSession).1 = .error noFields ∧
      ((fiatEstimate.run (some {}) (.object
        [("amount_msat", .int 1000), ("timestamp", .int 500000)])).outcome oddSession).1 =
        .error noFields ∧
      ((report.run (some {}) (.object [("start_time", .int 0), ("disable_fiat", .bool true),
        ("categories", .int 5)])).outcome oddSession).1 =
        .error (.shape (.notIterable "int")) := by
  refine ⟨rfl, ?_, ?_, rfl⟩
  · unfold run Service.exchangeRates ratesAt pricesFor PriceSource.pricesAt PriceSource.ascending
    simp only [sort_times_eq_foldr]
    rfl
  · unfold run Service.fiatEstimate estimate quote? pricesFor PriceSource.pricesAt
      PriceSource.ascending
    simp only [sort_times_eq_foldr]
    rfl

end NodeLedger.Service
