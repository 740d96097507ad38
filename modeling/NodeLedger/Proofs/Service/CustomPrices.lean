import Mathlib.Order.Bounds.Defs
import NodeLedger.Proofs.Price.Custom
import NodeLedger.Proofs.Report.Cause
import NodeLedger.Proofs.Report.Inward
import NodeLedger.Proofs.Service.Quotes
import NodeLedger.Proofs.Service.Unpriced

/-!
# Calls with prices given by the caller

A request whose caller gives all prices is accepted only if one of them is quoted before the period
of the report, or before the first time asked for.  All entries of the report lie in the period, so
there is a price for each of them: no price service is asked, and no price is missing.

Main results:

- Theorem `ReportRequest.priceConfig_of_ofParams`: which prices an accepted request uses.
- Theorem `ReportRequest.priceLookup_of_given`: what comes of looking up the prices of such a
  request.
- Theorem `Service.given_prices_suffice`: neither a report nor a look-up of exchange rates lacks
  prices that are given.
-/

namespace NodeLedger

open List NodeLedger.Action NodeLedger.Causes

/-! ## Requests -/

namespace ReportRequest

variable [Text.CharacterNames] {settings : Settings} {params : ReportParams} {now : Int}
  {request : ReportRequest}

/-- A request uses no prices if its entries are to have no value, and else those that its caller
asks for. -/
theorem priceConfig_of_ofParams (h : ofParams settings params now = .ok request) :
    request.disableFiat = true ∧ request.priceConfig = none ∨
      request.disableFiat = false ∧ ∃ config, request.priceConfig = some config ∧
        params.prices.config settings request.period = .ok config := by
  obtain ⟨-, -, -, hprices, -, hdisable, -⟩ := ofParams_eq_ok_iff.mp h
  unfold readPrices at hprices
  cases hflag : readDisableFiat settings params.disableFiat with
  | true =>
    rw [hflag, if_pos rfl] at hprices
    exact .inl ⟨hdisable.trans hflag, (Except.ok.inj hprices).symm⟩
  | false =>
    rw [hflag, if_neg Bool.false_ne_true] at hprices
    cases hconfig : params.prices.config settings request.period with
    | error failure =>
      rw [hconfig] at hprices
      cases hprices
    | ok config =>
      rw [hconfig] at hprices
      exact .inr ⟨hdisable.trans hflag, config, (Except.ok.inj hprices).symm, rfl⟩

/-- If all prices of a request are given, one of them is quoted before its period. -/
theorem exists_earlier_of_ofParams (h : ofParams settings params now = .ok request)
    {config : PriceConfig} (hconfig : request.priceConfig = some config)
    (hgiven : config.TakesGiven) :
    ∃ point ∈ config.pricePoints, point.timestamp < request.period.start := by
  rcases priceConfig_of_ofParams h with ⟨-, hnone⟩ | ⟨-, asked, hasked, hread⟩
  · rw [hnone] at hconfig
    cases hconfig
  · rw [hasked] at hconfig
    cases hconfig
    exact PriceRequest.exists_earlier_of_config hread hgiven.backend

/-- If all prices of a request are given, looking them up leaves all but the log alone, fails for no
lack of prices, and finds a price for any time of the period. -/
theorem priceLookup_of_given (h : ofParams settings params now = .ok request)
    (hgiven : ∀ config, request.priceConfig = some config → config.TakesGiven) (s : Session) :
    let run := (request.priceLookup (Service.priceSource settings request.priceConfig)).outcome s
    run.2.outside = s.outside ∧ records.Covers run.1 ∧
      ∀ priceAt, run.1 = .ok priceAt → ∀ time, request.period.contains time = true →
        ∃ price, priceAt time = .ok price := by
  rcases priceConfig_of_ofParams h with ⟨hdisable, hnone⟩ | ⟨hvalues, config, hconfig, hread⟩
  · simp only [priceLookup, hdisable, if_pos, outcome_pure]
    refine ⟨trivial, covers_ok _, ?_⟩
    rintro _ ⟨⟩ time -
    exact ⟨_, rfl⟩
  · have hconfigGiven := hgiven config hconfig
    have hearlier := exists_earlier_of_ofParams h hconfig hconfigGiven
    have hmake : Service.priceSource settings request.priceConfig =
        .ok { config, settings := Service.querySettings settings } := by
      rw [hconfig]
      exact PriceSource.make_eq_ok_iff.mpr ⟨(PriceRequest.checks_of_config hread).1, rfl⟩
    have hmade : PriceSource.make (some config) (Service.querySettings settings) =
        .ok { config, settings := Service.querySettings settings } := hconfig ▸ hmake
    have hseries := PriceSource.outcome_prices_of_given hmade hconfigGiven request.period s
    have hcheck : records.Covers (request.period.check { past := true } s.now) := by
      simp
    simp only [priceLookup, hvalues, hmake]
    simp only [Bool.false_eq_true, if_false, outcome_bind, outcome_lift, hseries]
    cases hpast : request.period.check { past := true } s.now with
    | error failure =>
      rw [hpast] at hcheck
      refine ⟨rfl, covers_error.mpr (covers_error.mp hcheck), ?_⟩
      rintro _ ⟨⟩
    | ok =>
      refine ⟨rfl, covers_ok _, ?_⟩
      rintro _ ⟨⟩ time htime
      exact Price.exists_lookup_sort hearlier ((request.period.contains_iff time).mp htime).1

end ReportRequest

/-! ## Times in order -/

variable {times : List Int}

/-- Times in order begin with the least of them. -/
theorem head?_mergeSort_of_isLeast {first : Int} (h : IsLeast {time | time ∈ times} first) :
    (times.mergeSort fun a b => decide (a ≤ b)).head? = some first := by
  cases hhead : (times.mergeSort fun a b => decide (a ≤ b)).head? with
  | none =>
    have hfirst : first ∈ times.mergeSort fun a b => decide (a ≤ b) := List.mem_mergeSort.mpr h.1
    rw [List.head?_eq_none_iff.mp hhead] at hfirst
    cases hfirst
  | some start =>
    have hmem : start ∈ times := List.mem_mergeSort.mp (List.mem_of_head? hhead)
    have hle : start ≤ first := Order.head_le_of_mergeSort id hhead h.1
    rw [Int.le_antisymm hle (h.2 hmem)]

/-- Times in order end with the greatest of them. -/
theorem getLast?_mergeSort_of_isGreatest {last : Int}
    (h : IsGreatest {time | time ∈ times} last) :
    (times.mergeSort fun a b => decide (a ≤ b)).getLast? = some last := by
  cases hlast : (times.mergeSort fun a b => decide (a ≤ b)).getLast? with
  | none =>
    have hmem : last ∈ times.mergeSort fun a b => decide (a ≤ b) := List.mem_mergeSort.mpr h.1
    rw [List.getLast?_eq_none_iff.mp hlast] at hmem
    cases hmem
  | some stop =>
    have hmem : stop ∈ times := List.mem_mergeSort.mp (List.mem_of_getLast? hlast)
    have hle : last ≤ stop := Order.le_getLast_of_mergeSort id hlast h.1
    rw [Int.le_antisymm (h.2 hmem) hle]

/-! ## Calls -/

namespace Service

variable {settings : Settings} {s : Session}

/-- The report of a request whose prices are all given asks no price service, fails for no lack of
prices, and has all its entries in the period. -/
theorem report_of_given [Text.CharacterNames] {params : ReportParams} {now : Int}
    {request : ReportRequest}
    (h : ReportRequest.ofParams settings params now = .ok request)
    (hgiven : ∀ config, request.priceConfig = some config → config.TakesGiven) :
    let run := (Node.source.report request (priceSource settings request.priceConfig)).outcome s
    run.2.outside = s.outside ∧ records.Covers run.1 ∧
      ∀ entries, run.1 = .ok entries →
        ∀ entry ∈ entries, request.period.contains entry.timestamp = true := by
  obtain ⟨houtside, hcovers, hprices⟩ := ReportRequest.priceLookup_of_given h hgiven s
  simp only [NodeSource.report, outcome_bind]
  rcases hlookup : (request.priceLookup (priceSource settings request.priceConfig)).outcome s
    with ⟨failure | priceAt, t⟩
  · rw [hlookup] at houtside hcovers
    exact ⟨houtside, covers_error.mpr (covers_error.mp hcovers), by simp⟩
  · rw [hlookup] at houtside hprices
    have hinward := Node.inward_reportWithPrices request priceAt
    refine ⟨(hinward.keeps t).trans houtside, ?_, ?_⟩
    · refine Node.coversRun_reportWithPrices fun time htime => ?_
      obtain ⟨price, hprice⟩ := hprices priceAt rfl time htime
      rw [hprice]
      exact covers_ok price
    · intro entries hentries
      exact Node.contains_of_ends (ends_of_outcome hentries)

/-- The prices at some times, not in the future, are found if they are all given. -/
theorem ends_pricesFor_of_given {request : PriceRequest} {period : Period} {config : PriceConfig}
    (hconfig : request.config settings period = .ok config) (hgiven : config.TakesGiven)
    (hne : times ≠ []) (hstart : ∀ time ∈ times, period.start ≤ time)
    (hpast : ∀ time ∈ times, time ≤ s.now) :
    ∃ prices line, Ends (pricesFor settings request period times) s prices (s.write line) ∧
      Forall₂ (fun time (entry : Int × Price) => entry.1 = time ∧
        Price.lookup (Price.sort config.pricePoints) time = .ok entry.2)
        (PriceSource.ascending times) prices := by
  have hmake : PriceSource.make (some config) (querySettings settings) =
      .ok { config, settings := querySettings settings } :=
    PriceSource.make_eq_ok_iff.mpr ⟨(PriceRequest.checks_of_config hconfig).1, rfl⟩
  obtain ⟨point, hpoint, hearlier⟩ :=
    PriceRequest.exists_earlier_of_config hconfig hgiven.backend
  have hquoted : ∀ time ∈ times, ∃ point ∈ config.pricePoints, point.timestamp < time :=
    fun time htime => ⟨point, hpoint, Int.lt_of_lt_of_le hearlier (hstart time htime)⟩
  obtain ⟨prices, line, hprices, hfound⟩ :=
    PriceSource.ends_pricesAt_of_given hmake hgiven hne hpast hquoted
  refine ⟨prices, line, ?_, hfound⟩
  unfold pricesFor priceSource
  simp only [ends_bind, ends_lift]
  exact ⟨config, s, ⟨hconfig, rfl⟩, _, s, ⟨hmake, rfl⟩, hprices⟩

/-- A call for exchange rates at some times, not in the future, whose prices are all given is
answered with a rate for each of them, and asks no price service. -/
theorem ends_exchangeRates_of_given {args given : Value} {request : PriceRequest}
    {config : PriceConfig} {first last : Int}
    (hargs : checkArguments requiredForRates optionalForRates args = .ok ())
    (hfield : args.field "timestamps" = .ok given) (htimes : readTimes given = .ok times)
    (hrequest : priceRequest args = .ok request)
    (hfirst : IsLeast {time | time ∈ times} first)
    (hlast : IsGreatest {time | time ∈ times} last)
    (hpast : ∀ time ∈ times, time ≤ s.now)
    (hconfig : request.config settings ⟨first, last⟩ = .ok config)
    (hgiven : config.TakesGiven) :
    ∃ prices line, Ends (exchangeRates (some settings) args) s (ratesAnswer prices)
        (s.write line) ∧
      Forall₂ (fun time (entry : Int × Price) => entry.1 = time ∧
        Price.lookup (Price.sort config.pricePoints) time = .ok entry.2)
        (PriceSource.ascending times) prices := by
  have hmem : ∀ time ∈ times.mergeSort fun a b => decide (a ≤ b), time ∈ times :=
    fun _ h => List.mem_mergeSort.mp h
  have hne : (times.mergeSort fun a b => decide (a ≤ b)) ≠ [] := by
    intro hnil
    have hhead := head?_mergeSort_of_isLeast hfirst
    rw [hnil] at hhead
    cases hhead
  obtain ⟨prices, line, hprices, hfound⟩ := ends_pricesFor_of_given (s := s) hconfig hgiven hne
    (fun time htime => hfirst.2 (hmem time htime)) (fun time htime => hpast time (hmem time htime))
  rw [PriceSource.ascending_mergeSort] at hfound
  have hrates : Ends (ratesAt settings args) s (ratesAnswer prices) (s.write line) := by
    unfold ratesAt
    simp only [ends_bind, ends_lift]
    refine ⟨given, s, ⟨hfield, rfl⟩, times, s, ⟨htimes, rfl⟩, ?_⟩
    rw [head?_mergeSort_of_isLeast hfirst, getLast?_mergeSort_of_isGreatest hlast]
    simp only [ends_bind, ends_lift, ends_pure]
    exact ⟨request, s, ⟨hrequest, rfl⟩, prices, _, hprices, rfl, rfl⟩
  refine ⟨prices, line, ?_, hfound⟩
  unfold exchangeRates
  simp only [ends_bind, ends_lift]
  exact ⟨(), s, ⟨hargs, rfl⟩, (ends_answering_iff (ratesAnswer_ne_refusal prices)).mpr hrates⟩

/-- Prices that are given by the caller and accepted suffice for all that he asks for.

The report of a request whose prices are all given, in the currency of the report and in any order,
asks no price service, whatever the node records and answers; it may fail, but not for lack of a
price.  For one of the prices is quoted before the period in which all entries lie.

A call for exchange rates at some times, none of them in the future, whose prices are all given is
answered with a rate for each of the times, and asks no price service either. -/
theorem given_prices_suffice [Text.CharacterNames] :
    (∀ (settings : Settings) (params : ReportParams) (now : Int) (request : ReportRequest)
      (s : Session), ReportRequest.ofParams settings params now = .ok request →
      (∀ config, request.priceConfig = some config → config.TakesGiven) →
      let run := (Node.source.report request (priceSource settings request.priceConfig)).outcome s
      run.2.requests = s.requests ∧ (∀ fault, run.1 ≠ .error (.price fault)) ∧
        (∀ entries, run.1 = .ok entries →
          ∀ entry ∈ entries, request.period.contains entry.timestamp = true) ∧
        ∀ config, request.priceConfig = some config →
          ∃ point ∈ config.pricePoints, point.timestamp < request.period.start) ∧
    ∀ (settings : Settings) (args given : Value) (times : List Int) (request : PriceRequest)
      (config : PriceConfig) (first last : Int) (s : Session),
      checkArguments requiredForRates optionalForRates args = .ok () →
      args.field "timestamps" = .ok given → readTimes given = .ok times →
      priceRequest args = .ok request → (∀ time ∈ times, time ≤ s.now) →
      IsLeast {time | time ∈ times} first → IsGreatest {time | time ∈ times} last →
      request.config settings ⟨first, last⟩ = .ok config → config.TakesGiven →
      ∃ prices t, Ends (exchangeRates (some settings) args) s (ratesAnswer prices) t ∧
        t.requests = s.requests ∧ prices.map (·.1) = PriceSource.ascending times ∧
        ∀ time ∈ times, ∃ price, (time, price) ∈ prices ∧
          Price.lookup (Price.sort config.pricePoints) time = .ok price := by
  constructor
  · intro settings params now request s h hgiven
    obtain ⟨houtside, hcovers, hcontains⟩ := report_of_given (s := s) h hgiven
    refine ⟨Session.requests_eq_of_outside houtside, ?_, hcontains, ?_⟩
    · intro fault hfault
      exact hcovers _ hfault
    · intro config hconfig
      exact ReportRequest.exists_earlier_of_ofParams h hconfig (hgiven config hconfig)
  · intro settings args given times request config first last s hargs hfield htimes hrequest hpast
      hfirst hlast hconfig hgiven
    obtain ⟨prices, line, hanswer, hfound⟩ := ends_exchangeRates_of_given (s := s) hargs hfield
      htimes hrequest hfirst hlast hpast hconfig hgiven
    refine ⟨prices, _, hanswer, rfl, ?_, ?_⟩
    · have hfirsts := map_eq_map_of_forall₂ (f := id) (g := Prod.fst) hfound
        fun _ _ _ h => h.1.symm
      rw [← hfirsts, List.map_id]
    · intro time htime
      have hordered : time ∈ PriceSource.ascending times := PriceSource.mem_ascending.mpr htime
      obtain ⟨⟨_, price⟩, hmem, rfl, hprice⟩ := exists_of_mem_right hfound.flip hordered
      exact ⟨price, hmem, hprice⟩

end Service

/-- Two prices that a caller gives, the later one first. -/
def givenPoints : Value :=
  .list [.object [("timestamp", .int 50), ("price", .int 200)],
    .object [("timestamp", .int 5), ("price", .int 100)]]

/-- These prices as they are accepted. -/
def givenConfig : PriceConfig where
  backend := .custom
  pricePoints := [
    { timestamp := 50, perBitcoin := Decimal.ofInt 200 },
    { timestamp := 5, perBitcoin := Decimal.ofInt 100 }]

theorem takesGiven_givenConfig : givenConfig.TakesGiven where
  backend := rfl
  currency := by decide

/-- The arguments of a call for exchange rates with these prices. -/
def ratesCall : Value :=
  .object
    [("timestamps", .list [.int 60, .int 20, .int 60]), ("fiat_backend", .text "custom"),
     ("custom_prices", givenPoints)]

/-- A deposit after both prices is valued at the later one, and each of two times has its rate. -/
theorem Service.given_prices_suffice_givenConfig :
    let s : Session := { now := 2000, node := depositNode }
    let request : ReportRequest := { period := ⟨10, 1000⟩, priceConfig := some givenConfig }
    let run := (Node.source.report request (priceSource {} request.priceConfig)).outcome s
    (run.1.toOption.map fun entries => entries.map fun entry =>
        (entry.timestamp, entry.price.timestamp)) = some [(900, 50)] ∧
      run.2.requests = [] ∧ (∀ fault, run.1 ≠ .error (.price fault)) ∧
      ∃ prices t, Ends (exchangeRates (some {}) ratesCall) s (ratesAnswer prices) t ∧
        t.requests = [] ∧ prices.map (·.1) = PriceSource.ascending [60, 20, 60] ∧
        ∀ time ∈ [60, 20, 60], ∃ price, (time, price) ∈ prices ∧
          Price.lookup (Price.sort givenConfig.pricePoints) time = .ok price := by
  intro s request run
  have hgiven : ∀ config, request.priceConfig = some config → config.TakesGiven := by
    rintro _ ⟨⟩
    exact takesGiven_givenConfig
  have hparams : ReportRequest.ofParams {}
      { startTime := .int 10, endTime := .int 1000,
        prices := { fiatBackend := .text "custom", customPrices := givenPoints } } s.now =
      .ok request := rfl
  have hfirst : IsLeast {time : Int | time ∈ [60, 20, 60]} 20 := by
    constructor
    · simp
    · rintro time htime
      simp at htime
      omega
  have hlast : IsGreatest {time : Int | time ∈ [60, 20, 60]} 60 := by
    constructor
    · simp
    · rintro time htime
      simp at htime
      omega
  obtain ⟨hrequests, hprices, -⟩ :=
    given_prices_suffice.1 {} _ s.now request s hparams hgiven
  refine ⟨?_, hrequests, hprices, ?_⟩
  · show ((Node.source.report request (priceSource {} request.priceConfig)).outcome
      s).1.toOption.map _ = _
    unfold NodeSource.report NodeSource.reportWithPrices ReportRequest.priceLookup
      PriceSource.prices
    rw [Entry.sort_eq_foldr, Price.sort_eq_foldr]
    decide +kernel
  · exact given_prices_suffice.2 {} ratesCall (.list [.int 60, .int 20, .int 60]) [60, 20, 60]
      { fiatBackend := .text "custom", customPrices := givenPoints } givenConfig 20 60 s rfl rfl
      rfl rfl (by decide) hfirst hlast rfl takesGiven_givenConfig

end NodeLedger
