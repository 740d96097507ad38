import NodeLedger.Proofs.Price.Requests
import NodeLedger.Proofs.Price.Times
import NodeLedger.Proofs.Price.Window

/-!
# Pages of Coinbase

A period is begun at the beginning of a candle and falls into pages, which are asked for one after
the other.  So the first candle begins at or before the start of the period.  But a period that is
empty, and at the beginning of a candle, has no page at all: nothing is asked, and there is no price
at its only time.

Main results:

- Theorem `Coinbase.isGreatest_aligned`: where a period is begun.
- Theorem `Coinbase.ends_prices_iff`: the prices of a period are those of its pages, in order.
- Theorem `Coinbase.pages_suffice`: which pages a period is asked for in, and that there is a recent
  price at every time if the service has one at the beginning of every candle.
- Theorem `Coinbase.pages_none_onCandle`: an empty period for which nothing is asked.
-/

namespace NodeLedger
namespace Coinbase

open List NodeLedger.Action

variable {granularity : Granularity} {period : Period} {settings : QuerySettings} {s t : Session}

/-! ## Queries -/

/-- A request asks for the candles of a page. -/
def AsksFor (granularity : Granularity) (page : Period) (request : HttpRequest) : Prop :=
  ∃ first last, Calendar.timeText page.start = .ok first ∧ Calendar.timeText page.stop = .ok last ∧
    request.url = candlesUrl ∧
    request.params = .object [("start", .text first), ("end", .text last),
      ("granularity", .int granularity.aggregation)]

theorem asks_pagePrices (settings : QuerySettings) (granularity : Granularity) (page : Period) :
    Asks (AsksFor granularity page) settings.retry.maxAttempts.toNat
      (pagePrices settings granularity page) := by
  apply settings.retry.asks_run
  apply asks_bind_of_keeps (keeps_lift _)
  intro first _ _ hfirst
  apply asks_bind_of_keeps (keeps_lift _)
  intro last _ _ hlast
  refine QuerySettings.asks_fetch fun _ _ => ⟨first, last, ?_, ?_, rfl, rfl⟩
  · exact (ends_lift.mp hfirst).1
  · exact (ends_lift.mp hlast).1

/-! ## Pages -/

section Pages

variable (hpos : 0 < granularity.aggregation)

include hpos

/-- A period is begun at the last beginning of a candle that is not behind its start. -/
theorem isGreatest_aligned (period : Period) :
    IsGreatest {n | granularity.aggregation ∣ n ∧ n ≤ period.start}
      (aligned granularity period).start := by
  have hmultiple : (aligned granularity period).start =
      granularity.aggregation * (period.start / granularity.aggregation) := by
    have hsplit := Int.mul_ediv_add_emod period.start granularity.aggregation
    simp only [aligned, Int.fmod_eq_emod_of_nonneg _ (Int.le_of_lt hpos)]
    omega
  rw [hmultiple]
  exact Price.isGreatest_multiple hpos period.start

/-- The prices of a period are those of its pages. -/
theorem prices_eq (settings : QuerySettings) (period : Period) :
    prices settings granularity period = List.flatten <$>
      ((aligned granularity period).windows (pageWidth granularity)).mapM
        (pagePrices settings granularity) := by
  have hforward : ¬ (granularity.aggregation < 0 ∧
      (aligned granularity period).start < (aligned granularity period).stop) := by omega
  unfold prices
  dsimp only
  rw [if_neg (Int.ne_of_gt hpos), if_neg hforward, Period.gather_eq]

/-- So they are had if those of all pages are. -/
theorem ends_prices_iff {series : List Price} :
    Ends (prices settings granularity period) s series t ↔
      ∃ found, Ends (((aligned granularity period).windows (pageWidth granularity)).mapM
        (pagePrices settings granularity)) s found t ∧ series = found.flatten := by
  rw [prices_eq hpos, map_eq_pure_bind]
  exact ends_bind_pure

/-- A period that is begun at its stop is empty and at the beginning of a candle. -/
theorem stop_le_aligned_iff (hperiod : period.start ≤ period.stop) :
    period.stop ≤ (aligned granularity period).start ↔
      period.start = period.stop ∧ granularity.aggregation ∣ period.start := by
  obtain ⟨⟨hmultiple, hle⟩, hlast⟩ := isGreatest_aligned hpos period
  constructor
  · intro hstop
    have hstart : (aligned granularity period).start = period.start := by omega
    rw [hstart] at hmultiple
    exact ⟨by omega, hmultiple⟩
  · rintro ⟨hempty, hcandle⟩
    have := hlast ⟨hcandle, Int.le_refl _⟩
    omega

/-- For an empty period at the beginning of a candle there are no pages. -/
theorem windows_onCandle (hempty : period.start = period.stop)
    (hcandle : granularity.aggregation ∣ period.start) :
    (aligned granularity period).windows (pageWidth granularity) = [] := by
  have hwidth : 0 < pageWidth granularity := by
    unfold pageWidth candleCap
    omega
  refine (Period.windows_eq_nil_iff hwidth).mpr ?_
  exact (stop_le_aligned_iff hpos (Int.le_of_eq hempty)).mpr ⟨hempty, hcandle⟩

/-- So nothing is asked for it. -/
theorem ends_prices_onCandle (hempty : period.start = period.stop)
    (hcandle : granularity.aggregation ∣ period.start) (settings : QuerySettings) (s : Session) :
    Ends (prices settings granularity period) s [] s := by
  refine (ends_prices_iff hpos).mpr ⟨[], ?_, rfl⟩
  rw [windows_onCandle hpos hempty hcandle]
  exact ends_pure.mpr ⟨rfl, rfl⟩

/-- With prices at the beginnings of all candles of the pages, there is one at every time of the
period, and at its stop. -/
theorem exists_recent {pages : List Period} {found : List (List Price)}
    (hpages : (aligned granularity period).FallsInto pages)
    (hnonempty : (aligned granularity period).start < period.stop)
    (hfound : Forall₂ (Price.AtEach granularity.aggregation) pages found) {time : Int}
    (hstart : period.start ≤ time) (hstop : time ≤ period.stop) :
    ∃ price, Price.lookup (Price.sort found.flatten) time = .ok price ∧
      price.timestamp ≤ time ∧ time - granularity.aggregation ≤ price.timestamp := by
  obtain ⟨⟨hmultiple, hle⟩, -⟩ := isGreatest_aligned hpos period
  refine Price.exists_recent hpos (hpages.atEach hfound) hstop ?_
  -- The beginning of the first candle is itself a multiple in front of the stop.
  intro last hlast _
  exact hlast.2 ⟨hmultiple, Int.le_trans hle hstart, hnonempty⟩

/-- The prices of a period are asked for in pages.

If the period is empty and at the beginning of a candle, nothing is asked and there are no prices.
Otherwise the period is begun at the last beginning of a candle that is not behind its start, and
falls into pages: at least one, and none of them empty or longer than 300 candles.

If the prices are then had, the pages have been asked for in order.  And if every page is answered
with prices at the beginnings of all candles in it, perhaps among others, then the prices are had,
and for every time from the start of the period to its stop there is one that is not older than a
candle. -/
theorem pages_suffice (hperiod : period.start ≤ period.stop) (settings : QuerySettings)
    (s : Session) :
    let step := granularity.aggregation
    let first := (aligned granularity period).start
    let pages := (Period.mk first period.stop).windows (step * candleCap)
    let run := (prices settings granularity period).outcome s
    (period.start = period.stop ∧ step ∣ period.start → pages = [] ∧ run = (.ok [], s)) ∧
    (¬ (period.start = period.stop ∧ step ∣ period.start) →
      IsGreatest {n | step ∣ n ∧ n ≤ period.start} first ∧
      Period.FallsInto ⟨first, period.stop⟩ pages ∧
      (∀ page ∈ pages, page.start < page.stop ∧ page.stop - page.start ≤ step * candleCap) ∧
      1 ≤ pages.length ∧
      (∀ series, run.1 = .ok series → ∃ sent, run.2.requests = s.requests ++ sent ∧
        InBatches (AsksFor granularity) settings.retry.maxAttempts.toNat pages sent) ∧
      ∀ found t, Ends (pages.mapM (pagePrices settings granularity)) s found t →
        Forall₂ (Price.AtEach step) pages found →
        run = (.ok found.flatten, t) ∧
          ∀ time, period.start ≤ time → time ≤ period.stop →
            ∃ price, Price.lookup (Price.sort found.flatten) time = .ok price ∧
              price.timestamp ≤ time ∧ time - step ≤ price.timestamp) := by
  intro step first pages run
  have hwidth : 0 < step * candleCap := by
    unfold candleCap
    omega
  have hempty := stop_le_aligned_iff hpos hperiod
  constructor
  · rintro ⟨hempty, hcandle⟩
    exact ⟨windows_onCandle hpos hempty hcandle,
      ends_prices_onCandle hpos hempty hcandle settings s⟩
  · intro hcandle
    have hnonempty : first < period.stop := by
      rw [← hempty] at hcandle
      exact Int.not_le.mp hcandle
    have hfalls : Period.FallsInto ⟨first, period.stop⟩ pages :=
      Period.fallsInto_windows hwidth hnonempty
    refine ⟨isGreatest_aligned hpos period, hfalls,
      fun page hpage => Period.bounds_of_mem_windows hpage, List.length_pos_iff.mpr hfalls.ne_nil, ?_, ?_⟩
    · intro series hseries
      obtain ⟨found, hfound, -⟩ := (ends_prices_iff hpos).mp (ends_of_outcome hseries)
      exact Asks.mapM (asks_pagePrices settings granularity) hfound
    · intro found t hfound hquoted
      exact ⟨(ends_prices_iff hpos).mpr ⟨found, hfound, rfl⟩,
        fun time => exists_recent hpos hfalls hnonempty hquoted⟩

end Pages

/-- A service that is asked for the candles around an hour and has both of them, the later one
first. -/
def candlesSession : Session where
  replies := { listed := [
    { body := .ok "[[10800, 1, 3, 2, 200, 5], [7200, 1, 3, 2, 100, 5]]" }] }

/-- The page of this hour is begun at the candle in front of it. -/
theorem windows_betweenCandles :
    (Period.mk (aligned .hourly ⟨7300, 10900⟩).start 10900).windows
      (Granularity.hourly.aggregation * candleCap) = [⟨7200, 10900⟩] := by
  rw [Period.windows, dif_pos (by decide), Period.windows, dif_neg (by decide)]
  rfl

/-- For an hour that begins between two candles there is a price at its start, from the candle in
front of it; for the end of that candle alone nothing is asked. -/
theorem pages_suffice_betweenCandles :
    let s := candlesSession
    let pages := (Period.mk (aligned .hourly ⟨7300, 10900⟩).start 10900).windows
      (Granularity.hourly.aggregation * candleCap)
    (∃ found t, Ends (pages.mapM (pagePrices {} Granularity.hourly)) s found t ∧
      found.map (·.map (·.timestamp)) = [[10800, 7200]] ∧
      Forall₂ (Price.AtEach Granularity.hourly.aggregation) pages found ∧
      (prices {} Granularity.hourly ⟨7300, 10900⟩).outcome s = (.ok found.flatten, t) ∧
      ∃ price, Price.lookup (Price.sort found.flatten) 7300 = .ok price ∧
        price.timestamp ≤ 7300 ∧ 3700 ≤ price.timestamp) ∧
    (prices {} Granularity.hourly ⟨10800, 10800⟩).outcome s = (.ok [], s) := by
  intro s pages
  have hpos : 0 < Granularity.hourly.aggregation := by decide
  constructor
  · obtain ⟨found, hfound, htimes⟩ : ∃ found,
        Ends (pages.mapM (pagePrices {} Granularity.hourly)) s found _ ∧
          found.map (·.map (·.timestamp)) = [[10800, 7200]] := by
      apply exists_ends_of_outcome
      simp only [pages, windows_betweenCandles]
      decide +kernel
    have hquoted : Forall₂ (Price.AtEach Granularity.hourly.aggregation) pages found := by
      refine Price.forall₂_atEach htimes ?_
      simp only [pages, windows_betweenCandles]
      refine .cons ?_ .nil
      intro time hstep hcontains
      have hmultiple : (3600 : Int) ∣ time := hstep
      have hbounds := (Period.contains_iff _ _).mp hcontains
      simp only [List.mem_cons, List.not_mem_nil, or_false] at hbounds ⊢
      omega
    have hperiod : (Period.mk 7300 10900).start ≤ (Period.mk 7300 10900).stop := by decide
    obtain ⟨-, hsuffice⟩ := pages_suffice hpos hperiod {} s
    obtain ⟨-, -, -, -, -, hprices⟩ := hsuffice (by decide)
    obtain ⟨hrun, hlookup⟩ := hprices found _ hfound hquoted
    exact ⟨found, _, hfound, htimes, hquoted, hrun, hlookup 7300 (by decide) (by decide)⟩
  · have hperiod : (Period.mk 10800 10800).start ≤ (Period.mk 10800 10800).stop := by decide
    obtain ⟨hempty, -⟩ := pages_suffice hpos hperiod {} s
    exact (hempty (by decide)).2

/-! ## A single time -/

/-- The price at a single time, if this is the beginning of a candle, cannot be had, whatever the
service has to offer. -/
theorem outcome_pricesAt_onCandle {config : PriceConfig} {source : PriceSource} {time : Int}
    (hmake : PriceSource.make (some config) settings = .ok source)
    (hbackend : config.backend = .coinbase)
    (hpos : 0 < (config.granularity.getD .hourly).aggregation)
    (hcandle : (config.granularity.getD .hourly).aggregation ∣ time) (hpast : time ≤ s.now) :
    ∃ line, (PriceSource.pricesAt (.ok source) [time]).outcome s =
      (.error (.price .noPrices), s.write line) := by
  refine PriceSource.outcome_pricesAt_of_unquoted hmake hpast fun line => ?_
  simp only [PriceBackend.prices, hbackend]
  exact ends_prices_onCandle hpos rfl hcandle settings (s.write line)

/-- A service that has the candle in front of the time asked for. -/
def candleSession : Session where
  now := 1000000
  replies := { listed := [{ body := .ok "[[3600, 1, 3, 2, 2, 5]]" }] }

/-- At the beginning of a candle nothing is asked and there is no price, although the granularity is
accepted and the service has one. -/
theorem pages_none_onCandle :
    let config : PriceConfig := { backend := .coinbase, granularity := some .hourly }
    let run := (PriceSource.pricesAt (PriceSource.make (some config) {}) [7200]).outcome candleSession
    config.check = .ok () ∧
      (aligned .hourly ⟨7200, 7200⟩).windows (pageWidth .hourly) = [] ∧
      run.1 = .error (.price .noPrices) ∧ run.2.requests = [] := by
  intro config run
  have hcheck : config.check = .ok () := rfl
  have hmake : PriceSource.make (some config) {} = .ok { config, settings := {} } :=
    PriceSource.make_eq_ok_iff.mpr ⟨hcheck, rfl⟩
  have hcandle : Granularity.hourly.aggregation ∣ 7200 := by decide
  obtain ⟨line, hrun⟩ := outcome_pricesAt_onCandle (s := candleSession) hmake rfl (by decide)
    hcandle (by decide)
  have hnone : run = (.error (.price .noPrices), candleSession.write line) := by
    rw [← hrun, ← hmake]
  rw [hnone]
  exact ⟨hcheck, windows_onCandle (by decide) rfl hcandle, rfl, rfl⟩

end Coinbase
end NodeLedger
