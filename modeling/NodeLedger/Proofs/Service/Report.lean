import NodeLedger.Proofs.Record.Selection
import NodeLedger.Proofs.Session.Frame
import NodeLedger.Service

/-!
# Calls for a report

A call is answered with a report if its arguments are those of a report, its parameters fit together
and the report can be made; any other answer is a refusal.

Main results:

- Theorem `ReportRequest.ofParams_eq_ok_iff` says which request the parameters of a call make.
- Theorem `Service.ends_report_iff`: a call that is answered with a report makes a request, and the
  report is that of the node.
-/

namespace NodeLedger

open NodeLedger.Action

/-! ## Requests -/

namespace ReportRequest

variable {settings : Settings} {params : ReportParams} {now : Int} {request : ReportRequest}

/-- The prices that the parameters of a report ask for, none if entries are to have no value. -/
def readPrices (settings : Settings) (params : ReportParams) (period : Period) :
    Except Failure (Option PriceConfig) :=
  if readDisableFiat settings params.disableFiat then .ok none
  else some <$> params.prices.config settings period

/-- The parameters of a report are read one after the other. -/
theorem ofParams_eq [Text.CharacterNames] (settings : Settings) (params : ReportParams)
    (now : Int) :
    ofParams settings params now = (do
      let period ← readPeriod params.startTime params.endTime now
      period.check { nonempty := true, past := true } now
      let priceConfig ← readPrices settings params period
      let categories ← Category.parse params.categories
      return { period, priceConfig, categories,
               disableFiat := readDisableFiat settings params.disableFiat,
               unconfirmedAsNow := settings.unconfirmedAsNow }) := by
  unfold ofParams readPrices
  cases readDisableFiat settings params.disableFiat <;> rfl

/-- The parameters of a report make a request: its period is over by now and not empty, and its
prices and categories can be read. -/
theorem ofParams_eq_ok_iff [Text.CharacterNames] :
    ofParams settings params now = .ok request ↔
      readPeriod params.startTime params.endTime now = .ok request.period ∧
      request.period.start < request.period.stop ∧ request.period.stop ≤ now ∧
      readPrices settings params request.period = .ok request.priceConfig ∧
      Category.parse params.categories = .ok request.categories ∧
      request.disableFiat = readDisableFiat settings params.disableFiat ∧
      request.unconfirmedAsNow = settings.unconfirmedAsNow := by
  rw [ofParams_eq]
  simp only [bind_eq_ok_iff, Period.check_eq_ok_iff]
  constructor
  · rintro ⟨period, hperiod, _, ⟨hle, hne, hpast⟩, priceConfig, hprices, categories, hcategories,
      hrequest⟩
    cases hrequest
    have hlt : period.start < period.stop := Int.lt_iff_le_and_ne.mpr ⟨hle, hne trivial⟩
    exact ⟨hperiod, hlt, hpast trivial, hprices, hcategories, rfl, rfl⟩
  · rintro ⟨hperiod, hlt, hpast, hprices, hcategories, hdisable, hunconfirmed⟩
    refine ⟨request.period, hperiod, (),
      ⟨Int.le_of_lt hlt, fun _ => Int.ne_of_lt hlt, fun _ => hpast⟩,
      request.priceConfig, hprices, request.categories, hcategories, ?_⟩
    rw [← hdisable, ← hunconfirmed]
    rfl

end ReportRequest

/-! ## Calls -/

namespace Service

variable {settings : Settings} {args answer : Value} {s t : Session}

/-- What a caller of a report has to give. -/
def requiredArguments : List String :=
  ["start_time"]

/-- What a caller of a report may give. -/
def optionalArguments : List String :=
  ["end_time", "disable_fiat", "granularity", "fiat_backend", "currency", "categories",
   "custom_prices"]

/-- What is read from the arguments of a call for a report, null for what is not there. -/
theorem reportParams_object (fields : Table String Value) :
    reportParams (.object fields) =
      let given := fun name => (fields.get? name).getD .null
      .ok {
        startTime := given "start_time"
        endTime := given "end_time"
        disableFiat := given "disable_fiat"
        prices := {
          fiatBackend := given "fiat_backend"
          granularity := given "granularity"
          currency := given "currency"
          customPrices := given "custom_prices" }
        categories := given "categories" } :=
  rfl

/-- An answer is that of a report that has been made for a request. -/
def Answers (settings : Settings) (request : ReportRequest) (s : Session) (answer : Value)
    (t : Session) : Prop :=
  ∃ entries, Ends (Node.source.report request (priceSource settings request.priceConfig))
      { s with cache := {} } entries t ∧
    answer = reportAnswer request entries

/-- A report is no refusal. -/
theorem reportAnswer_ne_refusal (request : ReportRequest) (entries : List Entry) (reason : String) :
    reportAnswer request entries ≠ refusal reason := by
  intro h
  simp [reportAnswer, refusal] at h

/-- A request is answered with the report of the node, or else it is refused. -/
theorem ends_makeReport {request : ReportRequest} (hanswer : ∀ reason, answer ≠ refusal reason) :
    Ends (makeReport settings request) s answer t ↔ Answers settings request s answer t := by
  unfold makeReport Node.forget NodeCache.update Answers
  simp only [ends_bind, ends_modify, ends_attempt]
  constructor
  · rintro ⟨_, _, rfl, result, u, hresult, h⟩
    cases result with
    | ok entries =>
      obtain ⟨rfl, rfl⟩ := ends_pure.mp h
      exact ⟨entries, hresult, rfl⟩
    | error failure =>
      exfalso
      dsimp only at h
      split at h
      · simp only [ends_bind, not_ends_throw] at h
        obtain ⟨_, _, hfalse, -⟩ := h
        exact hfalse
      · simp only [ends_bind, ends_pure] at h
        obtain ⟨_, _, -, rfl, -⟩ := h
        exact hanswer _ rfl
  · rintro ⟨entries, hentries, rfl⟩
    exact ⟨(), _, rfl, .ok entries, t, hentries, ends_pure.mpr ⟨rfl, rfl⟩⟩

/-- A call is answered with a report if its arguments and its parameters are such that a request can
be made of them, and the request is answered with the report of the node. -/
theorem ends_report_iff [Text.CharacterNames] (hanswer : ∀ reason, answer ≠ refusal reason) :
    Ends (report (some settings) args) s answer t ↔
      checkArguments requiredArguments optionalArguments args = .ok () ∧
      ∃ params request, reportParams args = .ok params ∧
        ReportRequest.ofParams settings params s.now = .ok request ∧
        Answers settings request s answer t := by
  unfold report
  simp only [ends_bind, ends_lift, ends_now]
  constructor
  · rintro ⟨_, s, ⟨hargs, rfl⟩, params, s, ⟨hparams, rfl⟩, _, s, ⟨rfl, rfl⟩, h⟩
    cases hrequest : ReportRequest.ofParams settings params s.now with
    | ok request =>
      rw [hrequest] at h
      exact ⟨hargs, params, request, hparams, hrequest, (ends_makeReport hanswer).mp h⟩
    | error failure =>
      rw [hrequest] at h
      dsimp only at h
      split at h
      · exact absurd (ends_pure.mp h).1 (hanswer _)
      · exact absurd h not_ends_throw
  · rintro ⟨hargs, params, request, hparams, hrequest, h⟩
    refine ⟨(), s, ⟨hargs, rfl⟩, params, s, ⟨hparams, rfl⟩, s.now, s, ⟨rfl, rfl⟩, ?_⟩
    rw [hrequest]
    exact (ends_makeReport hanswer).mpr h

end Service

end NodeLedger
