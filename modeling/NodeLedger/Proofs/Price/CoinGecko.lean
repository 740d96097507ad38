import NodeLedger.Proofs.Price.Requests
import NodeLedger.Proofs.Price.Times
import NodeLedger.Proofs.Price.Window

/-!
# Ranges of CoinGecko

A period is cut where the service changes from daily to hourly prices, and each of its parts is
asked for by itself, with a number of days that reaches back behind its start.  Both sides of the cut
are taken only if there is something strictly beyond it.  So an empty period that lies right at the
cut has no part: nothing is asked, and there is no price at its only time.

Main results:

- Theorems `CoinGecko.ranges_atCut`, `CoinGecko.ranges_acrossCut` and `CoinGecko.ranges_aside`: the
  parts of every period.
- Theorems `CoinGecko.lag_reaches` and `CoinGecko.lag_le`: how far the days of a query reach.
- Theorem `CoinGecko.ranges_suffice`: which ranges a period is asked for in, for how many days, and
  how late its prices are.
- Theorem `CoinGecko.ranges_none_atCut`: an empty period for which nothing is asked.
-/

namespace NodeLedger
namespace CoinGecko

open List NodeLedger.Action

variable {period range : Period} {settings : QuerySettings} {now : Int} {s t : Session}

/-! ## Queries -/

/-- A request asks for the prices of a range. -/
def AsksFor (now : Int) (range : Period) (request : HttpRequest) : Prop :=
  request.url = historyUrl ∧
    request.params = .object [("vs_currency", .text "usd"), ("days", .int (lag now range.start))]

theorem asks_rangePrices (settings : QuerySettings) (now : Int) (range : Period) :
    Asks (AsksFor now range) settings.retry.maxAttempts.toNat (rangePrices settings now range) := by
  have hquery : Asks (AsksFor now range) 1 (query settings (lag now range.start)) :=
    QuerySettings.asks_fetch fun _ _ => ⟨rfl, rfl⟩
  exact (settings.retry.asks_run hquery _).bind_of_keeps fun _ => keeps_pure _

/-- The prices of a range are not quoted after its stop. -/
theorem le_stop_of_ends {found : List Price}
    (h : Ends (rangePrices settings now range) s found t) {price : Price} (hprice : price ∈ found) :
    price.timestamp ≤ range.stop := by
  unfold rangePrices at h
  obtain ⟨quoted, u, -, hkept⟩ := ends_bind.mp h
  rw [(ends_pure.mp hkept).1] at hprice
  exact of_decide_eq_true (List.mem_filter.mp hprice).2

/-! ## Days -/

/-- The days of a query reach to a time before the start. -/
theorem lag_reaches (now start : Int) : now - lag now start * Calendar.day < start := by
  unfold lag Calendar.day
  omega

/-- From the cut on they are those for which prices are hourly, and one more at most. -/
theorem lag_le {start : Int} (h : hourlyFrom now ≤ start) : lag now start ≤ hourlyDays + 1 := by
  unfold lag Calendar.day
  unfold hourlyFrom hourlyDays Calendar.day at h
  unfold hourlyDays
  omega

/-! ## Ranges -/

/-- An empty period at the cut has no parts. -/
theorem ranges_atCut (hstart : period.start = hourlyFrom now) (hstop : period.stop = hourlyFrom now) :
    ranges now period = [] := by
  simp [ranges, hstart, hstop]

/-- A period that reaches across the cut is cut there. -/
theorem ranges_acrossCut (hstart : period.start < hourlyFrom now)
    (hstop : hourlyFrom now < period.stop) :
    ranges now period = [⟨period.start, hourlyFrom now⟩, ⟨hourlyFrom now, period.stop⟩] := by
  simp [ranges, hstart, hstop, Int.le_of_lt]

/-- Any other period is a part by itself. -/
theorem ranges_aside (hperiod : period.start ≤ period.stop)
    (hat : ¬ (period.start = hourlyFrom now ∧ period.stop = hourlyFrom now))
    (hacross : ¬ (period.start < hourlyFrom now ∧ hourlyFrom now < period.stop)) :
    ranges now period = [period] := by
  by_cases hstart : period.start < hourlyFrom now
  · have hstop : period.stop ≤ hourlyFrom now := by omega
    simp [ranges, hstart, hstop, Int.not_lt.mpr hstop]
  · have hbefore : hourlyFrom now ≤ period.start := Int.not_lt.mp hstart
    have hstop : hourlyFrom now < period.stop := by omega
    simp [ranges, hstart, hstop, hbefore]

/-- No part ends after the period. -/
theorem stop_le_of_mem_ranges (h : range ∈ ranges now period) : range.stop ≤ period.stop := by
  unfold ranges at h
  rcases List.mem_append.mp h with hbefore | hbehind
  · split at hbefore
    · rw [List.mem_singleton.mp hbefore]
      exact Int.min_le_left _ _
    · cases hbefore
  · split at hbehind
    · rw [List.mem_singleton.mp hbehind]
    · cases hbehind

/-! ## Prices -/

/-- The prices of a period are had if those of all ranges are. -/
theorem ends_prices_iff {series : List Price} :
    Ends (prices settings period) s series t ↔
      ∃ found, Ends ((ranges s.now period).mapM (rangePrices settings s.now)) s found t ∧
        series = found.flatten := by
  unfold prices
  rw [ends_bind]
  constructor
  · rintro ⟨now, u, hnow, hfound⟩
    obtain ⟨rfl, rfl⟩ := ends_now.mp hnow
    exact ends_bind_pure.mp hfound
  · intro hfound
    exact ⟨s.now, s, ends_now.mpr ⟨rfl, rfl⟩, ends_bind_pure.mpr hfound⟩

/-- For an empty period at the cut nothing is asked. -/
theorem ends_prices_atCut (hstart : period.start = hourlyFrom s.now)
    (hstop : period.stop = hourlyFrom s.now) (settings : QuerySettings) :
    Ends (prices settings period) s [] s := by
  refine ends_prices_iff.mpr ⟨[], ?_, rfl⟩
  rw [ranges_atCut hstart hstop]
  exact ends_pure.mpr ⟨rfl, rfl⟩

/-- The prices of a period are not quoted after its stop. -/
theorem le_stop_of_prices {series : List Price} (h : Ends (prices settings period) s series t)
    {price : Price} (hprice : price ∈ series) : price.timestamp ≤ period.stop := by
  obtain ⟨found, hfound, rfl⟩ := ends_prices_iff.mp h
  obtain ⟨part, hpart, hmem⟩ := List.mem_flatten.mp hprice
  obtain ⟨range, hrange, _, _, hends⟩ := exists_of_mem_right hfound.mapM hpart
  exact Int.le_trans (le_stop_of_ends hends hmem) (stop_le_of_mem_ranges hrange)

/-- The prices of a period are asked for in at most two parts.

If the period is empty and lies 89 days back, at the cut, nothing is asked and there are no prices.
Otherwise the period falls into parts: those in front of the cut and behind it, if it reaches across
the cut, and else the period itself.  The days of the query for a part reach to a time before its
start, and they are at most 90 if the part begins at the cut or behind it.

If the prices are had, the parts have been asked for in order, and no price is quoted after the stop
of the period.  They are had if those of all parts are. -/
theorem ranges_suffice (hperiod : period.start ≤ period.stop) (settings : QuerySettings)
    (s : Session) :
    let cut := s.now - 89 * Calendar.day
    let parts := ranges s.now period
    let run := (prices settings period).outcome s
    (period.start = cut ∧ period.stop = cut → parts = [] ∧ run = (.ok [], s)) ∧
    (¬ (period.start = cut ∧ period.stop = cut) →
      period.FallsInto parts ∧
      parts = if period.start < cut ∧ cut < period.stop
        then [⟨period.start, cut⟩, ⟨cut, period.stop⟩] else [period]) ∧
    (∀ part ∈ parts, s.now - lag s.now part.start * Calendar.day < part.start ∧
      (cut ≤ part.start → lag s.now part.start ≤ 90)) ∧
    (∀ series, run.1 = .ok series →
      (∃ sent, run.2.requests = s.requests ++ sent ∧
        InBatches (AsksFor s.now) settings.retry.maxAttempts.toNat parts sent) ∧
      ∀ price ∈ series, price.timestamp ≤ period.stop) ∧
    ∀ found t, Ends (parts.mapM (rangePrices settings s.now)) s found t →
      run = (.ok found.flatten, t) := by
  intro cut parts run
  have hparts : ¬ (period.start = cut ∧ period.stop = cut) →
      parts = if period.start < cut ∧ cut < period.stop
        then [⟨period.start, cut⟩, ⟨cut, period.stop⟩] else [period] := by
    intro hat
    split
    case isTrue hacross => exact ranges_acrossCut hacross.1 hacross.2
    case isFalse hacross => exact ranges_aside hperiod hat hacross
  refine ⟨?_, fun hat => ⟨?_, hparts hat⟩, ?_, ?_, ?_⟩
  · rintro ⟨hstart, hstop⟩
    exact ⟨ranges_atCut hstart hstop, ends_prices_atCut hstart hstop settings⟩
  · rw [hparts hat]
    split
    · exact .cons rfl (.single ⟨cut, period.stop⟩)
    · exact .single period
  · exact fun part _ => ⟨lag_reaches s.now part.start, lag_le⟩
  · intro series hseries
    have hends : Ends (prices settings period) s series run.2 := ends_of_outcome hseries
    obtain ⟨found, hfound, -⟩ := ends_prices_iff.mp hends
    exact ⟨Asks.mapM (asks_rangePrices settings s.now) hfound, fun _ => le_stop_of_prices hends⟩
  · intro found t hfound
    exact ends_prices_iff.mpr ⟨found, hfound, rfl⟩

/-- A service that is asked across the cut, which lies at 1000000, and tells more prices than are
wanted. -/
def cutSession : Session where
  now := 8689600
  replies := { listed := [
    { body := .ok "\x7b\"prices\": [[900000000, 100], [1000000000, 200], [1100000000, 300]]\x7d" },
    { body := .ok "\x7b\"prices\": [[1003600000, 400], [1020000000, 500]]\x7d" }] }

/-- A period across the cut is asked for in two parts, and an empty one at the cut not at all. -/
theorem ranges_suffice_cutSession :
    let s := cutSession
    let parts := ranges s.now ⟨990000, 1010000⟩
    parts = [⟨990000, 1000000⟩, ⟨1000000, 1010000⟩] ∧
    parts.map (fun part => lag s.now part.start) = [90, 90] ∧
    (∃ series t, Ends (prices {} ⟨990000, 1010000⟩) s series t ∧
      series.map (·.timestamp) = [900000, 1000000, 1003600] ∧
      (∀ price ∈ series, price.timestamp ≤ 1010000) ∧
      ∃ sent, t.requests = s.requests ++ sent ∧ InBatches (AsksFor s.now) 3 parts sent) ∧
    (prices {} ⟨1000000, 1000000⟩).outcome s = (.ok [], s) := by
  intro s parts
  have hacross : (Period.mk 990000 1010000).start ≤ (Period.mk 990000 1010000).stop := by decide
  have hatCut : (Period.mk 1000000 1000000).start ≤ (Period.mk 1000000 1000000).stop := by decide
  obtain ⟨-, -, -, hprices, -⟩ := ranges_suffice hacross {} s
  obtain ⟨hnone, -⟩ := ranges_suffice hatCut {} s
  obtain ⟨series, hends, htimes⟩ : ∃ series, Ends (prices {} ⟨990000, 1010000⟩) s series _ ∧
      series.map (·.timestamp) = [900000, 1000000, 1003600] := by
    apply exists_ends_of_outcome
    decide +kernel
  generalize ((prices {} ⟨990000, 1010000⟩).outcome s).2 = t at hends
  unfold Ends at hends
  rw [hends] at hprices
  obtain ⟨⟨sent, hsent, hbatches⟩, hstop⟩ := hprices series rfl
  refine ⟨by decide, by decide, ⟨series, t, hends, htimes, hstop, sent, hsent, hbatches⟩, ?_⟩
  exact (hnone ⟨by decide, by decide⟩).2

/-- A service that has a price just before the time asked for, which lies 89 days back. -/
def lateCutSession : Session where
  now := 8689600
  replies := { listed := [
    { body := .ok "\x7b\"prices\": [[999000000, 100], [1003600000, 200]]\x7d" }] }

/-- Right at the cut nothing is asked and there is no price, although the service has one; one
second later there is a query again. -/
theorem ranges_none_atCut :
    let config : PriceConfig := { backend := .coingecko }
    let source := PriceSource.make (some config) {}
    let run := (PriceSource.pricesAt source [1000000]).outcome lateCutSession
    config.check = .ok () ∧
      ranges lateCutSession.now ⟨1000000, 1000000⟩ = [] ∧
      run.1 = .error (.price .noPrices) ∧ run.2.requests = [] ∧
      ranges lateCutSession.now ⟨1000001, 1000001⟩ = [⟨1000001, 1000001⟩] := by
  intro config source run
  have hmake : source = .ok { config, settings := {} } :=
    PriceSource.make_eq_ok_iff.mpr ⟨rfl, rfl⟩
  have hcut : 1000000 = hourlyFrom lateCutSession.now := by decide
  have hquoted : ∀ line, Ends (PriceBackend.prices {} config ⟨1000000, 1000000⟩)
      (lateCutSession.write line) [] (lateCutSession.write line) :=
    fun line => ends_prices_atCut hcut hcut {}
  obtain ⟨line, hrun⟩ := PriceSource.outcome_pricesAt_of_unquoted hmake (by decide) hquoted
  have hnone : run = (.error (.price .noPrices), lateCutSession.write line) := by
    rw [← hrun, ← hmake]
  rw [hnone]
  exact ⟨rfl, by decide, rfl, rfl, by decide⟩

end CoinGecko
end NodeLedger
