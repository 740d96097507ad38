import NodeLedger.Proofs.Price.Series

/-!
# Series in one currency

A series has as many prices as are quoted, in the order of their times.  Prices quoted in the
currency that is wanted are taken as they are, and all others have to be quoted in dollars: they are
divided by the dollars that one unit of the currency is worth.  That rate is asked for once, and
only if it is needed; a rate of zero is refused, so nothing is ever divided by zero.

Main results:

- Theorem `CoinCap.ends_dollarRate`: where the exchange rate of a currency comes from.
- Theorem `Decimal.div_ne_divisionByZero`: a division by another number than zero is none by zero.
- Structure `Price.InOrder`: prices in the order of their times.
- Theorem `PriceSource.prices_converted`: what a series is made of.
-/

namespace NodeLedger

open List NodeLedger.Action NodeLedger.Text

/-! ## Exchange rates -/

/-- Only a division by zero is one. -/
theorem Decimal.div_ne_divisionByZero {a b : Decimal} (h : b.isZero = false) :
    a.div b ≠ .error .divisionByZero := by
  have hrounded : ∀ negative num den exponent,
      rounded negative num den exponent ≠ .error .divisionByZero := by
    intro negative num den exponent
    unfold rounded
    dsimp only
    split_ifs <;> simp
  have hundefined : ∀ a b, (undefinedResult? a b).getD (.error .invalid) ≠
      .error .divisionByZero := by
    intro a b
    unfold undefinedResult?
    split <;> simp
  unfold div
  split
  · next s c e t d f =>
    have hd : d ≠ 0 := by simpa [isZero] using h
    rw [if_neg hd]
    unfold divFinite
    dsimp only
    split_ifs
    · simp
    · exact hrounded _ _ _ _
    · exact hrounded _ _ _ _
  · simp
  · simp
  · simp
  · exact hundefined _ _

/-- An exchange rate is the one listed for the currency in the answer to one query, which may take
several attempts; it is not zero. -/
theorem CoinCap.ends_dollarRate {settings : QuerySettings} {currency : String} {s t : Session}
    {rate : Decimal} :
    Ends (dollarRate settings currency) s rate t ↔
      ∃ rates, Ends (settings.retry.run (Http.fetch ratesUrl (.object []) settings.timeout)
          readRates) s rates t ∧
        Table.get? rates (upper currency) = some rate ∧ rate.isZero = false := by
  unfold dollarRate
  rw [ends_bind]
  constructor
  · rintro ⟨rates, u, hrates, h⟩
    split at h
    · next known hknown =>
      split at h
      · exact absurd h not_ends_throw
      · next hzero =>
        obtain ⟨rfl, rfl⟩ := ends_pure.mp h
        exact ⟨rates, hrates, hknown, Bool.eq_false_iff.mpr hzero⟩
    · exact absurd h not_ends_throw
  · rintro ⟨rates, hrates, hknown, hzero⟩
    refine ⟨rates, t, hrates, ?_⟩
    rw [hknown]
    dsimp only
    rw [if_neg (Bool.eq_false_iff.mp hzero)]
    exact ends_pure.mpr ⟨rfl, rfl⟩

/-! ## Prices that are quoted -/

namespace Price

/-- Prices in the order of their times; those of one time stay in the order in which they are
quoted. -/
structure InOrder (quoted ordered : List Price) : Prop where
  perm : ordered ~ quoted
  sorted : ordered.Pairwise fun p q => p.timestamp ≤ q.timestamp
  stable : ∀ time, quotedAt ordered time = quotedAt quoted time

theorem inOrder_sort (quoted : List Price) : InOrder quoted (sort quoted) where
  perm := List.mergeSort_perm quoted _
  sorted := Order.pairwise_mergeSort Price.timestamp quoted
  stable time := Order.filter_mergeSort_eq Price.timestamp time quoted

/-- What a quoted price becomes in a currency, in numbers. -/
theorem converts_iff {currency : String} {rate : Decimal} {quote price : Price} :
    quote.Converts currency rate price ↔
      (upper quote.currency = currency → price = quote) ∧
      (upper quote.currency ≠ currency → upper quote.currency = dollar ∧
        price.timestamp = quote.timestamp ∧ price.currency = currency ∧
        quote.perBitcoin.div rate = .ok price.perBitcoin) := by
  unfold Converts PriceSource.isIn
  by_cases hin : upper quote.currency = currency
  · simp [hin]
  · rw [if_neg (by simpa using hin)]
    simp only [hin, false_implies, true_and, ne_eq, not_false_eq_true, forall_const]
    refine and_congr_right fun _ => ?_
    unfold PriceSource.convertAt
    cases quote.perBitcoin.div rate with
    | error fault => simp
    | ok perBitcoin =>
      obtain ⟨timestamp, converted, currency'⟩ := price
      simp only [Except.ok.injEq, Price.mk.injEq]
      tauto

end Price

namespace PriceSource

variable {config : PriceConfig} {settings : QuerySettings} {quotes : Period → Action (List Price)}
  {currency : String} {rate : Decimal} {s t : Session}

/-- The log line about an exchange rate. -/
def rateLine (currency : String) (rate : Decimal) : LogLine :=
  ⟨.debug, "converting USD prices to " ++ currency ++ " at rate " ++ rate.text⟩

theorem ends_exchangeRate {source : PriceSource} :
    Ends (source.exchangeRate currency) s rate t ↔
      ∃ u, Ends (source.dollarRate currency) s rate u ∧ t = u.write (rateLine currency rate) := by
  have hsteps : source.exchangeRate currency = source.dollarRate currency >>= fun rate =>
      modify (fun s => s.write (rateLine currency rate)) >>= fun _ => pure rate := rfl
  rw [hsteps]
  simp only [ends_bind, ends_modify, ends_pure]
  constructor
  · rintro ⟨_, u, hrate, _, _, rfl, rfl, rfl⟩
    exact ⟨u, hrate, rfl⟩
  · rintro ⟨u, hrate, rfl⟩
    exact ⟨rate, u, hrate, (), _, rfl, rfl, rfl⟩

theorem convertAt_ne_divisionByZero (h : rate.isZero = false) (quote : Price) :
    convertAt currency rate quote ≠ .error (.decimal .divisionByZero) := by
  have hdiv := Decimal.div_ne_divisionByZero (a := quote.perBitcoin) h
  unfold convertAt
  split
  · nofun
  · next fault hquotient =>
    rintro ⟨⟩
    exact hdiv hquotient

/-- What the prices of a period are made of.

The prices that the backend quotes are put in the order of their times.  If all of them are in the
currency, they are the series, and nothing else is done.  Otherwise the exchange rate of the
currency is asked for once, and each price that is not in the currency has to be in dollars and is
divided by that rate, which is not zero.  With a price that is in neither currency there is no
series. -/
theorem prices_converted (config : PriceConfig) (settings : QuerySettings)
    (quotes : Period → Action (List Price)) (period : Period) (s : Session) :
    let source : PriceSource := { config, settings, quotes }
    let currency := upper config.currency
    (∀ series t, Ends (source.prices period) s series t →
      ∃ quoted s₁ ordered, Ends (quotes period) s quoted s₁ ∧ Price.InOrder quoted ordered ∧
        series.length = quoted.length ∧
        ((∀ quote ∈ quoted, upper quote.currency = currency) ∧ series = ordered ∧ t = s₁ ∨
          (∃ quote ∈ quoted, upper quote.currency ≠ currency) ∧
          ∃ rates rate s₂,
            Ends (settings.retry.run
              (Http.fetch CoinCap.ratesUrl (.object []) settings.timeout) CoinCap.readRates)
              s₁ rates s₂ ∧
            Table.get? rates (upper currency) = some rate ∧ rate.isZero = false ∧
            t = s₂.write (rateLine currency rate) ∧
            Forall₂ (fun quote price =>
              (upper quote.currency = currency → price = quote) ∧
              (upper quote.currency ≠ currency → upper quote.currency = dollar ∧
                price.timestamp = quote.timestamp ∧ price.currency = currency ∧
                quote.perBitcoin.div rate = .ok price.perBitcoin)) ordered series)) ∧
    (∀ s₁ rate s₂, Ends (source.exchangeRate currency) s₁ rate s₂ →
      ∀ quote, convertAt currency rate quote ≠ .error (.decimal .divisionByZero)) ∧
    (∀ quoted s₁, Ends (quotes period) s quoted s₁ →
      (∃ quote ∈ quoted, upper quote.currency ≠ currency ∧ upper quote.currency ≠ dollar) →
      Fails (source.prices period) s) := by
  intro source currency
  have hin : ∀ quote : Price, isIn currency quote = true ↔ upper quote.currency = currency :=
    fun quote => beq_iff_eq
  refine ⟨?_, ?_, ?_⟩
  · intro series t h
    obtain ⟨quoted, s₁, -, hquoted, hconvert⟩ := exists_ends_convert h
    have hordered := Price.inOrder_sort quoted
    refine ⟨quoted, s₁, Price.sort quoted, hquoted, hordered, ?_, ?_⟩
    · obtain ⟨rate, hconverted⟩ := exists_rate_of_ends_convert hconvert
      exact hconverted.length_eq.symm.trans hordered.perm.length_eq
    · rcases ends_convert.mp hconvert with
        ⟨hall, hsame, ht⟩ | ⟨⟨quote, hquote, hnot⟩, rate, hends, hconverted⟩
      · refine .inl ⟨?_, hsame, ht⟩
        intro quote hquote
        exact (hin quote).mp (hall quote (hordered.perm.mem_iff.mpr hquote))
      · obtain ⟨s₂, hdollars, ht⟩ := ends_exchangeRate.mp hends
        obtain ⟨rates, hrates, hknown, hzero⟩ := CoinCap.ends_dollarRate.mp hdollars
        refine .inr ⟨⟨quote, hordered.perm.mem_iff.mp hquote, mt (hin quote).mpr hnot⟩, rates, rate,
          s₂, hrates, hknown, hzero, ht, ?_⟩
        exact hconverted.imp fun _ _ => Price.converts_iff.mp
  · intro s₁ rate s₂ hends
    obtain ⟨u, hdollars, -⟩ := ends_exchangeRate.mp hends
    obtain ⟨rates, -, -, hzero⟩ := CoinCap.ends_dollarRate.mp hdollars
    exact convertAt_ne_divisionByZero hzero
  · rintro quoted s₁ hquoted ⟨quote, hquote, hnot, hdollar⟩
    rw [fails_iff]
    rintro ⟨series, t, h⟩
    obtain ⟨quoted', s₂, rate, -, hquoted', hconverted⟩ := ends_prices h
    obtain ⟨rfl, -⟩ := hquoted.unique hquoted'
    have hmem : quote ∈ Price.sort quoted := List.mem_mergeSort.mpr hquote
    obtain ⟨price, -, hconverts⟩ := exists_of_mem_right hconverted.flip hmem
    exact hdollar ((Price.converts_iff.mp hconverts).2 hnot).1

/-- Prices in euros and in dollars, the currencies written in small and large letters, and a rate of
two dollars. -/
def mixedPrices : PriceSource where
  config := {
    backend := .custom
    currency := "eur"
    pricePoints := [
      { timestamp := 20, perBitcoin := Decimal.ofInt 300 },
      { timestamp := 10, perBitcoin := Decimal.ofInt 90, currency := "Eur" },
      { timestamp := 20, perBitcoin := Decimal.ofInt 80, currency := "EUR" },
      { timestamp := 0, perBitcoin := Decimal.ofInt 100, currency := "usd" }] }

/-- The series of these prices; with a price in pounds among them there is none. -/
theorem prices_converted_mixedPrices :
    let s : Session := { now := 100, replies := { listed := [
      { body := .ok "\x7b\"data\":[\x7b\"symbol\":\"EUR\",\"rateUsd\":\"2\"\x7d]\x7d" }] } }
    let pounds : PriceConfig := { mixedPrices.config with
      pricePoints := mixedPrices.config.pricePoints ++
        [{ timestamp := 5, perBitcoin := Decimal.ofInt 70, currency := "GBP" }] }
    (∃ series t, Ends (mixedPrices.prices ⟨0, 50⟩) s series t ∧
      series.map (fun price => (price.timestamp, price.perBitcoin, price.currency)) =
        [(0, Decimal.ofInt 50, "EUR"), (10, Decimal.ofInt 90, "Eur"),
          (20, Decimal.ofInt 150, "EUR"), (20, Decimal.ofInt 80, "EUR")] ∧
      t.requests.length = 1 ∧ series.length = 4) ∧
    Fails (({ config := pounds } : PriceSource).prices ⟨0, 50⟩) s := by
  intro s pounds
  constructor
  · obtain ⟨series, hends, hseries⟩ : ∃ series, Ends (mixedPrices.prices ⟨0, 50⟩) s series _ ∧
        series.map (fun price => (price.timestamp, price.perBitcoin, price.currency)) =
          [(0, Decimal.ofInt 50, "EUR"), (10, Decimal.ofInt 90, "Eur"),
            (20, Decimal.ofInt 150, "EUR"), (20, Decimal.ofInt 80, "EUR")] := by
      apply exists_ends_of_outcome
      unfold prices
      rw [Price.sort_eq_foldr]
      decide +kernel
    have hasked : ((mixedPrices.prices ⟨0, 50⟩).outcome s).2.requests.length = 1 := by
      unfold prices
      rw [Price.sort_eq_foldr]
      decide +kernel
    obtain ⟨quoted, s₁, ordered, hquoted, -, hlength, -⟩ :=
      (prices_converted mixedPrices.config {} mixedPrices.quotes ⟨0, 50⟩ s).1 series _ hends
    obtain ⟨rfl, -⟩ := ends_pure.mp hquoted
    exact ⟨series, _, hends, hseries, hasked, hlength⟩
  · refine (prices_converted pounds {} _ ⟨0, 50⟩ s).2.2 pounds.pricePoints s
      (ends_pure.mpr ⟨rfl, rfl⟩) ?_
    exact ⟨{ timestamp := 5, perBitcoin := Decimal.ofInt 70, currency := "GBP" }, by decide,
      by decide +kernel, by decide +kernel⟩

end PriceSource

end NodeLedger
