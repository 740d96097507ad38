import NodeLedger.Proofs.Price.Times
import NodeLedger.Proofs.Service.CustomPrices

/-!
# Exchange rates do not depend on how times are listed

A call for exchange rates puts the times that it is given in order, looks them all up in one series,
and answers each of them once.  So how often and in which order they are listed does not matter, and
a call for the value of an amount at a time finds the price that the exchange rate at this time has.

Main results:

- Definitions `Service.callForRates` and `Service.callForEstimate`: the arguments of calls that
  differ in their times.
- Theorem `Service.mirrors_exchangeRates`: calls with the same times come to the same.
- Theorem `Service.exists_rates_of_exchangeRates`: what an answer with exchange rates holds.
- Theorem `Service.ends_exchangeRates_of_fiatEstimate`: the value of an amount is that at the
  exchange rate.
- Theorem `Service.rates_of_times`: all of this.
-/

namespace NodeLedger
namespace Service

open List NodeLedger.Action

variable {settings : Settings} {options options' : Table String Value} {times times' : List Int}
  {amount time : Int} {answer : Value} {s t : Session}

/-! ## Arguments -/

/-- The arguments of a call for exchange rates at some times, with other arguments beside them. -/
def callForRates (options : Table String Value) (times : List Int) : Value :=
  .object (options.insert "timestamps" (.list (times.map .int)))

/-- The arguments of a call for the value of an amount at a time, with other arguments beside
them. -/
def callForEstimate (options : Table String Value) (amount time : Int) : Value :=
  .object ((options.insert "amount_msat" (.int amount)).insert "timestamp" (.int time))

/-- An argument, null if it is not given. -/
def given (options : Table String Value) (name : String) : Value :=
  (options.get? name).getD .null

/-- What is asked for about prices. -/
def priceOptions (options : Table String Value) : PriceRequest where
  fiatBackend := given options "fiat_backend"
  granularity := given options "granularity"
  currency := given options "currency"
  customPrices := given options "custom_prices"

theorem field_object (fields : Table String Value) (name : String) :
    (Value.object fields).field name = .ok (given fields name) :=
  rfl

theorem priceRequest_object (fields : Table String Value) :
    priceRequest (.object fields) = .ok (priceOptions fields) :=
  rfl

theorem given_insert (fields : Table String Value) (key name : String) (value : Value) :
    given (fields.insert key value) name = if key = name then value else given fields name := by
  unfold given
  rw [Table.get?_insert]
  split <;> rfl

/-- Only the names of arguments are checked. -/
theorem checkArguments_congr {required optional : List String} {fields fields' : Table String Value}
    (h : fields.keys = fields'.keys) :
    checkArguments required optional (.object fields) =
      checkArguments required optional (.object fields') := by
  have hmissing : ∀ (fields : Table String Value) (name : String),
      fields.all (·.1 != name) = fields.keys.all (· != name) := by
    intro fields name
    rw [Table.keys, List.all_map]
    rfl
  have hunknown : ∀ fields : Table String Value,
      (fields.find? fun field => field.1 ∉ required ++ optional).map (·.1) =
        fields.keys.find? fun name => name ∉ required ++ optional := by
    intro fields
    rw [Table.keys, List.find?_map]
    rfl
  have hsame := (hunknown fields).trans (h ▸ (hunknown fields').symm)
  unfold checkArguments
  simp only [hmissing, h]
  split
  · rfl
  · generalize fields.find? _ = found, fields'.find? _ = found' at hsame
    rcases found with _ | ⟨name, value⟩ <;> rcases found' with _ | ⟨name', value'⟩ <;>
      cases hsame <;> rfl

/-- The times of a call are read as they are. -/
theorem readTimes_list (times : List Int) :
    readTimes (.list (times.map .int)) = .ok times := by
  have hitems : ((Value.list (times.map .int)).orElse (.list [])).parts =
      .ok (times.map .int) := by
    cases times <;> rfl
  unfold readTimes
  rw [hitems]
  show (times.map Value.int).mapM Value.toInteger = .ok times
  clear hitems
  induction times with
  | nil => rfl
  | cons time times ih =>
    rw [List.map_cons, List.mapM_cons, ih]
    rfl

theorem field_callForRates :
    (callForRates options times).field "timestamps" = .ok (.list (times.map .int)) := by
  rw [callForRates, field_object, given_insert, if_pos rfl]

theorem priceRequest_callForRates :
    priceRequest (callForRates options times) = .ok (priceOptions options) := by
  rw [callForRates, priceRequest_object]
  simp [priceOptions, given_insert]

/-! ## Times in order -/

theorem head?_mergeSort_eq (times : List Int) :
    (times.mergeSort fun a b => decide (a ≤ b)).head? = (PriceSource.ascending times).head? := by
  unfold PriceSource.ascending
  cases times.mergeSort fun a b => decide (a ≤ b) with
  | nil => rfl
  | cons first rest => rw [List.eraseDups_cons, List.head?_cons, List.head?_cons]

theorem getLast?_mergeSort_eq (times : List Int) :
    (times.mergeSort fun a b => decide (a ≤ b)).getLast? =
      (PriceSource.ascending times).getLast? := by
  cases hlast : (PriceSource.ascending times).getLast? with
  | some last =>
    exact getLast?_mergeSort_of_isGreatest (PriceSource.isGreatest_of_getLast?_ascending hlast)
  | none =>
    have hnil := List.getLast?_eq_none_iff.mp hlast
    refine List.getLast?_eq_none_iff.mpr (List.eq_nil_iff_forall_not_mem.mpr fun time htime => ?_)
    have hmem := PriceSource.mem_ascending.mpr (List.mem_mergeSort.mp htime)
    rw [hnil] at hmem
    cases hmem

/-- What a call for exchange rates at some times looks up. -/
theorem ratesAt_callForRates :
    ratesAt settings (callForRates options times) =
      match (PriceSource.ascending times).head?, (PriceSource.ascending times).getLast? with
      | some first, some last => do
        let prices ← pricesFor settings (priceOptions options) ⟨first, last⟩
          (times.mergeSort fun a b => decide (a ≤ b))
        return ratesAnswer prices
      | _, _ => return refusal "at least one timestamp required" := by
  unfold ratesAt
  simp only [field_callForRates, priceRequest_callForRates, readTimes_list, lift_ok_bind,
    head?_mergeSort_eq, getLast?_mergeSort_eq]
  rfl

/-! ## The same times -/

/-- What a call asks for about prices does not depend on how its times are listed. -/
theorem mirrors_pricesFor {request : PriceRequest} {period : Period}
    (h : ∀ time, time ∈ times ↔ time ∈ times') :
    Mirrors .unlogged Eq (pricesFor settings request period times)
      (pricesFor settings request period times') := by
  unfold pricesFor
  refine (mirrors_check _).bind_eq fun config => ?_
  refine (mirrors_lift (matches_attained _)).bind ?_
  rintro source _ ⟨rfl, hmake⟩
  exact PriceSource.mirrors_pricesAt hmake h

theorem mirrors_ratesAt (h : ∀ time, time ∈ times ↔ time ∈ times') :
    Mirrors .unlogged Eq (ratesAt settings (callForRates options times))
      (ratesAt settings (callForRates options times')) := by
  have hsorted : ∀ time, time ∈ times.mergeSort (fun a b => decide (a ≤ b)) ↔
      time ∈ times'.mergeSort fun a b => decide (a ≤ b) := by
    intro time
    rw [List.mem_mergeSort, List.mem_mergeSort, h]
  rw [ratesAt_callForRates, ratesAt_callForRates, PriceSource.ascending_congr h]
  split
  · exact (mirrors_pricesFor hsorted).bind_eq fun prices => mirrors_pure rfl
  · exact mirrors_pure rfl

/-- Look-ups that come to the same are answered alike. -/
theorem mirrors_answering {act act' : Action Value} (h : Mirrors .unlogged Eq act act') :
    Mirrors .unlogged Eq (answering act) (answering act') := by
  unfold answering
  refine h.attempt.bind fun result result' hresult => ?_
  rw [matches_eq_iff.mp hresult]
  cases result' with
  | ok answer => exact mirrors_pure rfl
  | error failure =>
    dsimp only
    split
    · exact mirrors_pure rfl
    · exact mirrors_throw failure

/-- Calls for exchange rates at the same times come to the same. -/
theorem mirrors_exchangeRates (started : Option Settings)
    (h : ∀ time, time ∈ times ↔ time ∈ times') :
    Mirrors .unlogged Eq (exchangeRates started (callForRates options times))
      (exchangeRates started (callForRates options times')) := by
  have hargs : ∀ required optional,
      checkArguments required optional (callForRates options times) =
        checkArguments required optional (callForRates options times') := by
    intro required optional
    exact checkArguments_congr (Table.keys_alter_congr options _ _ _)
  unfold exchangeRates
  rw [hargs]
  refine (mirrors_check _).bind_eq fun _ => ?_
  cases started with
  | none => exact mirrors_pure rfl
  | some settings => exact mirrors_answering (mirrors_ratesAt h)

/-! ## Answers -/

/-- An answer that is no refusal is one with the rates at the times given. -/
theorem ends_exchangeRates_iff {args : Value} (hanswer : ∀ reason, answer ≠ refusal reason) :
    Ends (exchangeRates (some settings) args) s answer t ↔
      checkArguments requiredForRates optionalForRates args = .ok () ∧
        Ends (ratesAt settings args) s answer t := by
  unfold exchangeRates
  simp only [ends_bind, ends_lift]
  constructor
  · rintro ⟨_, _, ⟨hargs, rfl⟩, h⟩
    exact ⟨hargs, (ends_answering_iff hanswer).mp h⟩
  · rintro ⟨hargs, h⟩
    exact ⟨(), s, ⟨hargs, rfl⟩, (ends_answering_iff hanswer).mpr h⟩

/-- The series of prices that a call is answered from reaches from the first of its times to the
last. -/
def SeriesFor (settings : Settings) (request : PriceRequest) (times : List Int) (s : Session)
    (series : List Price) (t : Session) : Prop :=
  ∃ first last config source line,
    IsLeast {time | time ∈ times} first ∧ IsGreatest {time | time ∈ times} last ∧
    request.config settings ⟨first, last⟩ = .ok config ∧
    priceSource settings (some config) = .ok source ∧
    Ends (source.prices ⟨first, last⟩) (s.write line) series t

/-- An answer that is no refusal has one rate for each time, in order, from one series. -/
theorem exists_rates_of_exchangeRates
    (h : Ends (exchangeRates (some settings) (callForRates options times)) s answer t)
    (hanswer : ∀ reason, answer ≠ refusal reason) :
    ∃ rates series, answer = ratesAnswer rates ∧
      SeriesFor settings (priceOptions options) times s series t ∧
      Forall₂ (fun time (entry : Int × Price) =>
        entry.1 = time ∧ Price.lookup series time = .ok entry.2)
        (PriceSource.ascending times) rates := by
  obtain ⟨-, hrates⟩ := (ends_exchangeRates_iff hanswer).mp h
  rw [ratesAt_callForRates] at hrates
  split at hrates
  · next first last hfirst hlast =>
    unfold pricesFor at hrates
    simp only [ends_bind, ends_lift, ends_pure] at hrates
    obtain ⟨rates, _, ⟨config, _, ⟨hconfig, rfl⟩, source, _, ⟨hmake, rfl⟩, hprices⟩, rfl, rfl⟩ :=
      hrates
    have hleast := PriceSource.isLeast_of_head?_ascending hfirst
    have hgreatest := PriceSource.isGreatest_of_getLast?_ascending hlast
    have hsorted : ∀ bound : Int, bound ∈ (times.mergeSort fun a b => decide (a ≤ b)) ↔
        bound ∈ times := fun bound => List.mem_mergeSort
    have hne : (times.mergeSort fun a b => decide (a ≤ b)) ≠ [] :=
      List.ne_nil_of_mem ((hsorted first).mpr hleast.1)
    obtain ⟨first', last', line, series, hfirst', hlast', hseries, hfound⟩ :=
      PriceSource.exists_series_of_pricesAt hne hprices
    simp only [hsorted] at hfirst' hlast'
    rw [hfirst'.unique hleast, hlast'.unique hgreatest] at hseries
    rw [PriceSource.ascending_mergeSort] at hfound
    exact ⟨rates, series, rfl, ⟨first, last, config, source, line, hleast, hgreatest, hconfig,
      hmake, hseries⟩, hfound⟩
  · exact absurd (ends_pure.mp hrates).1 (hanswer _)

/-! ## Estimates -/

/-- What callers of exchange rates and of an estimate give besides times and amount is the same: the
former give nothing else, and no prices. -/
structure SameOptions (options options' : Table String Value) : Prop where
  names : ∀ name ∈ options'.keys, name ∈ requiredForRates ++ optionalForRates
  same : ∀ name ∈ optionalForEstimate, given options name = given options' name
  noPrices : (given options' "custom_prices").truthy = false

/-- So they ask for the same prices. -/
theorem SameOptions.config_eq (h : SameOptions options options') (settings : Settings)
    (period : Period) :
    { priceOptions options with customPrices := .null }.config settings period =
      (priceOptions options').config settings period := by
  have hpoints : ∀ currency, Price.readPoints currency .null =
      Price.readPoints currency (given options' "custom_prices") := by
    intro currency
    unfold Price.readPoints Value.orElse
    rw [if_neg (Bool.eq_false_iff.mp h.noPrices)]
    rfl
  unfold PriceRequest.config priceOptions
  simp only [h.same "fiat_backend" (by decide), h.same "currency" (by decide),
    h.same "granularity" (by decide), hpoints]

/-- The price at a single time, with the time. -/
theorem exists_price_of_pricesFor {request : PriceRequest} {period : Period}
    {prices : List (Int × Price)} (h : Ends (pricesFor settings request period [time]) s prices t) :
    ∃ price, prices = [(time, price)] := by
  unfold pricesFor at h
  simp only [ends_bind, ends_lift] at h
  obtain ⟨config, _, -, source, _, -, hprices⟩ := h
  obtain ⟨_, _, _, series, -, -, -, hfound⟩ :=
    PriceSource.exists_series_of_pricesAt (List.cons_ne_nil time []) hprices
  rw [PriceSource.ascending_singleton] at hfound
  obtain ⟨⟨_, price⟩, _, ⟨rfl, -⟩, hrest, rfl⟩ := forall₂_cons_left_iff.mp hfound
  exact ⟨price, by rw [forall₂_nil_left_iff.mp hrest]⟩

/-- What a call for the value of an amount looks up. -/
theorem quote?_callForEstimate :
    quote? settings (callForEstimate options amount time) =
      if amount < 0 then return none else do
        let prices ← pricesFor settings { priceOptions options with customPrices := .null }
          ⟨time, time⟩ [time]
        return (prices.find? (·.1 == time)).map fun entry => ⟨amount, entry.2⟩ := by
  have hamount : (callForEstimate options amount time).field "amount_msat" = .ok (.int amount) := by
    rw [callForEstimate, field_object, given_insert, given_insert]
    rfl
  have htime : (callForEstimate options amount time).field "timestamp" = .ok (.int time) := by
    rw [callForEstimate, field_object, given_insert]
    rfl
  have hrequest : priceRequest (callForEstimate options amount time) =
      .ok (priceOptions options) := by
    rw [callForEstimate, priceRequest_object]
    simp [priceOptions, given_insert]
  unfold quote?
  simp only [hamount, htime, hrequest, Value.toInteger, lift_ok_bind]

/-- An answer that is no refusal is the value of an amount that is looked up. -/
theorem exists_quote_of_fiatEstimate {args : Value}
    (h : Ends (fiatEstimate (some settings) args) s answer t)
    (hanswer : ∀ reason, answer ≠ refusal reason) :
    ∃ quote, Ends (quote? settings args) s (some quote) t ∧ estimateAnswer quote = .ok answer := by
  unfold fiatEstimate estimate at h
  simp only [ends_bind, ends_lift, ends_attempt] at h
  obtain ⟨_, _, ⟨-, rfl⟩, result, u, hresult, h⟩ := h
  cases result with
  | ok found =>
    cases found with
    | none => exact absurd (ends_pure.mp h).1 (hanswer _)
    | some quote =>
      obtain ⟨hvalue, rfl⟩ := ends_lift.mp h
      exact ⟨quote, hresult, hvalue⟩
  | error failure =>
    dsimp only at h
    split at h
    · exact absurd (ends_pure.mp h).1 (hanswer _)
    · exact absurd h not_ends_throw

/-- A call for the value of an amount that is answered with a value finds the price that a call for
the exchange rate at the time is answered with. -/
theorem ends_exchangeRates_of_fiatEstimate (hsame : SameOptions options options')
    (h : Ends (fiatEstimate (some settings) (callForEstimate options amount time)) s answer t)
    (hanswer : ∀ reason, answer ≠ refusal reason) :
    ∃ price value, 0 ≤ amount ∧ fiatValue price.perBitcoin amount = .ok value ∧
      answer = .object (("amount_msat", .int amount) :: ("fiat_value", .text value.text) ::
        price.reportFields) ∧
      Ends (exchangeRates (some settings) (callForRates options' [time])) s
        (ratesAnswer [(time, price)]) t := by
  obtain ⟨quote, hquote, hvalue⟩ := exists_quote_of_fiatEstimate h hanswer
  rw [quote?_callForEstimate] at hquote
  split at hquote
  · cases (ends_pure.mp hquote).1
  · next hamount =>
    obtain ⟨prices, u, hprices, hfound⟩ := ends_bind.mp hquote
    obtain ⟨hfound, rfl⟩ := ends_pure.mp hfound
    obtain ⟨price, rfl⟩ := exists_price_of_pricesFor hprices
    have hsingle : quote = ⟨amount, price⟩ := by simpa using hfound
    subst hsingle
    obtain ⟨value, hvalue, hresult⟩ := bind_eq_ok_iff.mp hvalue
    refine ⟨price, value, Int.not_lt.mp hamount, hvalue, (Except.ok.inj hresult).symm, ?_⟩
    refine (ends_exchangeRates_iff (ratesAnswer_ne_refusal _)).mpr ⟨?_, ?_⟩
    · refine checkArguments_eq_ok_iff.mpr ⟨?_, ?_⟩
      · intro name hname
        exact Table.mem_keys_alter.mpr (.inr (List.mem_singleton.mp hname))
      · intro name hname
        rcases Table.mem_keys_alter.mp hname with hname | rfl
        · exact hsame.names name hname
        · decide
    · rw [ratesAt_callForRates, PriceSource.ascending_singleton]
      have hpricesFor : Ends (pricesFor settings (priceOptions options') ⟨time, time⟩ [time]) s
          [(time, price)] t := by
        unfold pricesFor at hprices ⊢
        rwa [hsame.config_eq] at hprices
      simp only [List.head?_cons, List.getLast?_singleton, List.mergeSort_singleton, ends_bind,
        ends_pure]
      exact ⟨_, t, hpricesFor, rfl, rfl⟩

/-! ## All calls -/

/-- Exchange rates depend on nothing but which times are given.

Two calls that give the same times, however often and in whichever order, and the same otherwise,
come to the same: the same answer or failure, and the same session but for the log, so that the
price services have been asked the same.

An answer that is no refusal has one rate for each of the times, in ascending order.  All of them are
from one series, which is that of the period from the first of the times to the last: the rate at a
time is the last price of the series that is not behind it.

If a call for the value of an amount at a time is answered with a value, then so is one for the
exchange rate at this time, with the same price, as long as no prices are given and the same is asked
for otherwise. -/
theorem rates_of_times :
    (∀ (started : Option Settings) (options : Table String Value) (times times' : List Int)
      (s : Session), (∀ time, time ∈ times ↔ time ∈ times') →
      let run := (exchangeRates started (callForRates options times)).outcome s
      let run' := (exchangeRates started (callForRates options times')).outcome s
      run.1 = run'.1 ∧ run.2.unlogged = run'.2.unlogged) ∧
    (∀ (settings : Settings) (options : Table String Value) (times : List Int) (s t : Session)
      (answer : Value),
      Ends (exchangeRates (some settings) (callForRates options times)) s answer t →
      (∀ reason, answer ≠ refusal reason) →
      ∃ rates series, answer = ratesAnswer rates ∧
        (rates.map (·.1)).Pairwise (· < ·) ∧ (∀ time, time ∈ rates.map (·.1) ↔ time ∈ times) ∧
        SeriesFor settings (priceOptions options) times s series t ∧
        (series.Pairwise fun p q => p.timestamp ≤ q.timestamp) ∧
        ∀ entry ∈ rates,
          (series.filter fun p => decide (p.timestamp ≤ entry.1)).getLast? = some entry.2) ∧
    ∀ (settings : Settings) (options options' : Table String Value) (amount time : Int)
      (s t : Session) (answer : Value), SameOptions options options' →
      Ends (fiatEstimate (some settings) (callForEstimate options amount time)) s answer t →
      (∀ reason, answer ≠ refusal reason) →
      ∃ price value, 0 ≤ amount ∧ fiatValue price.perBitcoin amount = .ok value ∧
        answer = .object (("amount_msat", .int amount) :: ("fiat_value", .text value.text) ::
          price.reportFields) ∧
        Ends (exchangeRates (some settings) (callForRates options' [time])) s
          (ratesAnswer [(time, price)]) t := by
  refine ⟨?_, ?_, ?_⟩
  · intro started options times times' s hsame
    have hmirrors : Mirrors .unlogged Eq (exchangeRates started (callForRates options times))
        (exchangeRates started (callForRates options times')) := mirrors_exchangeRates started hsame
    obtain ⟨hresult, hsession⟩ := hmirrors s s rfl
    exact ⟨matches_eq_iff.mp hresult, hsession⟩
  · intro settings options times s t answer h hanswer
    obtain ⟨rates, series, hrates, hseries, hfound⟩ := exists_rates_of_exchangeRates h hanswer
    have htimes : PriceSource.ascending times = rates.map (·.1) := by
      have hfirsts := map_eq_map_of_forall₂ (f := id) hfound fun _ _ _ hentry => hentry.1.symm
      rwa [List.map_id] at hfirsts
    have hsorted : series.Pairwise fun p q => p.timestamp ≤ q.timestamp := by
      obtain ⟨_, _, _, _, _, -, -, -, -, hends⟩ := hseries
      exact PriceSource.pairwise_of_ends_prices hends
    refine ⟨rates, series, hrates, ?_, ?_, hseries, hsorted, ?_⟩
    · rw [← htimes]
      exact PriceSource.pairwise_ascending times
    · intro time
      rw [← htimes, PriceSource.mem_ascending]
    · intro entry hentry
      obtain ⟨time, -, rfl, hlookup⟩ := exists_of_mem_right hfound hentry
      exact Price.lookup_eq_ok hsorted hlookup
  · intro settings options options' amount time s t answer hsame h hanswer
    exact ends_exchangeRates_of_fiatEstimate hsame h hanswer

/-- A service that has the closing prices of the first two days. -/
def closingSession : Session where
  now := 1000000
  replies := { listed := [
    { body := .ok "\x7b\"bpi\": \x7b\"1970-01-01\": 100, \"1970-01-02\": 200\x7d\x7d" }] }

/-- What a caller asks for who wants closing prices. -/
def closingOptions : Table String Value :=
  [("fiat_backend", .text "coindesk")]

/-- The exchange rates at a time of each day. -/
def closingRates : Value :=
  ratesAnswer [(100, { timestamp := 0, perBitcoin := Decimal.ofInt 100 }),
    (90000, { timestamp := 86400, perBitcoin := Decimal.ofInt 200 })]

/-- The value of half a bitcoin on the second day. -/
def closingEstimate : Value :=
  .object [("amount_msat", .int 50000000000), ("fiat_value", .text "100.000000000"),
    ("price", .text "200"), ("price_timestamp", .int 86400), ("currency", .text dollar)]

/-- A time that is listed twice has one rate, and the value of an amount is that at its rate. -/
theorem rates_of_times_closingSession :
    let s := closingSession
    let rates := exchangeRates (some {}) (callForRates closingOptions [90000, 100, 90000])
    let rates' := exchangeRates (some {}) (callForRates closingOptions [100, 90000])
    let estimate := fiatEstimate (some {}) (callForEstimate closingOptions 50000000000 90000)
    let options' := ("custom_prices", Value.null) :: closingOptions
    ((rates.outcome s).1 = (rates'.outcome s).1 ∧
      (rates.outcome s).2.unlogged = (rates'.outcome s).2.unlogged) ∧
    (∃ found t, Ends rates s (ratesAnswer found) t ∧
      closingRates.same (ratesAnswer found) = true ∧ (found.map (·.1)).Pairwise (· < ·) ∧
      ∀ time, time ∈ found.map (·.1) ↔ time ∈ [90000, 100, 90000]) ∧
    ∃ answer price t, Ends estimate s answer t ∧ closingEstimate.same answer = true ∧
      Ends (exchangeRates (some {}) (callForRates options' [90000])) s
        (ratesAnswer [(90000, price)]) t := by
  intro s rates rates' estimate options'
  refine ⟨?_, ?_, ?_⟩
  · refine rates_of_times.1 (some {}) closingOptions [90000, 100, 90000] [100, 90000] s fun time => ?_
    simp only [List.mem_cons, List.not_mem_nil, or_false]
    omega
  · obtain ⟨answer, hrates, hanswer⟩ : ∃ answer, Ends rates s answer _ ∧
        closingRates.same answer = true := by
      apply exists_ends_of_outcome
      simp only [rates]
      unfold exchangeRates ratesAt pricesFor PriceSource.pricesAt PriceSource.ascending
      simp only [sort_times_eq_foldr]
      unfold PriceSource.prices
      rw [Price.sort_eq_foldr]
      decide +kernel
    have hrefusal : ∀ reason, answer ≠ refusal reason := by
      rintro reason rfl
      cases hanswer
    obtain ⟨found, series, rfl, hordered, htimes, -⟩ :=
      rates_of_times.2.1 {} closingOptions [90000, 100, 90000] s _ answer hrates hrefusal
    exact ⟨found, _, hrates, hanswer, hordered, htimes⟩
  · have hsame : SameOptions closingOptions options' := by
      refine ⟨by decide, ?_, rfl⟩
      intro name hname
      have hother : "custom_prices" ≠ name := by
        rintro rfl
        exact absurd hname (by decide)
      simp [given, Table.get?, options', hother]
    obtain ⟨answer, hestimate, hanswer⟩ : ∃ answer, Ends estimate s answer _ ∧
        closingEstimate.same answer = true := by
      apply exists_ends_of_outcome
      simp only [estimate]
      unfold fiatEstimate Service.estimate quote? pricesFor PriceSource.pricesAt
        PriceSource.ascending
      simp only [sort_times_eq_foldr]
      unfold PriceSource.prices
      rw [Price.sort_eq_foldr]
      decide +kernel
    have hrefusal : ∀ reason, answer ≠ refusal reason := by
      rintro reason rfl
      cases hanswer
    obtain ⟨price, value, -, -, -, hrate⟩ := rates_of_times.2.2 {} closingOptions options'
      50000000000 90000 s _ answer hsame hestimate hrefusal
    exact ⟨answer, price, _, hestimate, hanswer, hrate⟩

end Service
end NodeLedger
