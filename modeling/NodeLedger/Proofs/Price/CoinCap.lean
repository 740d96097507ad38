import NodeLedger.Proofs.Price.Requests
import NodeLedger.Proofs.Price.Window
import NodeLedger.Proofs.Request.Prices

/-!
# Windows of CoinCap

A period within the reach of a granularity is begun one price earlier and falls into windows, which
are asked for one after the other.  The limit is set to the period itself, so that the earlier
beginning may take one more window than queries are allowed.

Main results:

- Theorem `CoinCap.prices_eq`: the prices of a period are those of its windows, in order.
- Theorem `CoinCap.length_windows_le`: how many windows there are.
- Theorem `CoinCap.windows_suffice`: which periods are refused, which windows the others are asked for
  in, and that there is a recent price at every time if the service has one at every step.
-/

namespace NodeLedger
namespace CoinCap

open List NodeLedger.Action NodeLedger.Causes

variable {granularity : Granularity} {period : Period} {settings : QuerySettings} {s t : Session}

/-! ## Queries -/

/-- The prices of a window. -/
def windowPrices (settings : QuerySettings) (granularity : Granularity) (window : Period) :
    Action (List Price) :=
  settings.retry.run (query settings granularity window) readPrices

/-- A request asks for the prices of a window, the times of which are sent in milliseconds. -/
def AsksFor (granularity : Granularity) (window : Period) (request : HttpRequest) : Prop :=
  request.url = historyUrl ∧
    request.params = .object [("interval", .text granularity.label),
      ("start", .int (window.start * 1000)), ("end", .int (window.stop * 1000))]

theorem asks_windowPrices (settings : QuerySettings) (granularity : Granularity)
    (window : Period) :
    Asks (AsksFor granularity window) settings.retry.maxAttempts.toNat
      (windowPrices settings granularity window) :=
  settings.retry.asks_run (QuerySettings.asks_fetch fun _ _ => ⟨rfl, rfl⟩) _

/-! ## Windows -/

/-- The prices of a period that is not refused are those of its windows. -/
theorem prices_eq (hmem : granularity ∈ Granularity.all)
    (hreach : period.stop - period.start ≤ granularity.reach) (settings : QuerySettings) :
    prices settings (some granularity) period = (do
      let found ← ((extended granularity period).windows granularity.maximumQuery).mapM
        (windowPrices settings granularity)
      return Price.sort found.flatten) := by
  have hcheck : checkReach granularity period = .ok () := (checkReach_eq_ok_iff hmem).mpr hreach
  unfold prices windowPrices
  dsimp only
  rw [if_neg (not_not.mpr hmem), hcheck, Period.gather_eq, bind_map_left]
  rfl

/-- So they are had if those of all windows are. -/
theorem ends_prices_iff (hmem : granularity ∈ Granularity.all)
    (hreach : period.stop - period.start ≤ granularity.reach) {series : List Price} :
    Ends (prices settings (some granularity) period) s series t ↔
      ∃ found, Ends (((extended granularity period).windows granularity.maximumQuery).mapM
        (windowPrices settings granularity)) s found t ∧ series = Price.sort found.flatten := by
  rw [prices_eq hmem hreach]
  exact ends_bind_pure

/-- Other periods are refused before anything is asked. -/
theorem outcome_prices_of_long (hmem : granularity ∈ Granularity.all)
    (hspan : period.stop - period.start < 2 ^ 53)
    (hlong : granularity.reach < period.stop - period.start) (settings : QuerySettings)
    (s : Session) :
    (prices settings (some granularity) period).outcome s =
      (.error (.request (.periodTooLong granularity.label)), s) := by
  unfold prices
  dsimp only
  rw [if_neg (not_not.mpr hmem), checkReach_eq_error hmem hspan hlong]
  rfl

/-- A period that is not refused has no more windows than queries are allowed, and one. -/
theorem length_windows_le (hmem : granularity ∈ Granularity.all)
    (hreach : period.stop - period.start ≤ granularity.reach) :
    (((extended granularity period).windows granularity.maximumQuery).length : Int) ≤
      maxQueries + 1 := by
  have hall : ∀ granularity ∈ Granularity.all,
      granularity.aggregation ≤ granularity.maximumQuery := by decide
  have hprice := hall granularity hmem
  have hsix : (extended granularity period).stop - (extended granularity period).start ≤
      (6 : Nat) * granularity.maximumQuery := by
    simp only [extended, Granularity.reach, maxQueries] at hreach ⊢
    omega
  have := Period.length_windows_le hsix
  simp only [maxQueries]
  omega

/-- With prices at every step of the windows, there is one at every time of the period, and at its
stop. -/
theorem exists_recent (hpos : 0 < granularity.aggregation) {windows : List Period}
    {found : List (List Price)}
    (hwindows : (extended granularity period).FallsInto windows)
    (hfound : Forall₂ (Price.AtEach granularity.aggregation) windows found) {time : Int}
    (hstart : period.start ≤ time) (hstop : time ≤ period.stop) :
    ∃ price, Price.lookup (Price.sort found.flatten) time = .ok price ∧
      price.timestamp ≤ time ∧ time - granularity.aggregation ≤ price.timestamp := by
  refine Price.exists_recent hpos (hwindows.atEach hfound) hstop ?_
  intro last _ hrecent
  omega

/-- The prices of a period, which may be empty, are asked for in windows.

The period is refused, before anything is asked, just if its length, but at least the distance of
two prices, exceeds what the queries allowed can cover.  Otherwise the period is begun one price
earlier and falls into windows, none of which is empty or longer than one query may be.  There is at
least one of them, and at most one more than queries are allowed.

If the prices are had, the windows have been asked for in order.  And if every window is answered
with prices at all multiples of their distance that lie in it, perhaps among others, then the prices
are had, and for every time from the start of the period to its stop there is one that is not older
than this distance. -/
theorem windows_suffice (hmem : granularity ∈ Granularity.all)
    (hperiod : period.start ≤ period.stop) (hspan : period.stop - period.start < 2 ^ 53)
    (settings : QuerySettings) (s : Session) :
    let duration := max (period.stop - period.start) granularity.aggregation
    let tooLong : Failure := .request (.periodTooLong granularity.label)
    let widened : Period := ⟨period.start - granularity.aggregation, period.stop⟩
    let windows := widened.windows granularity.maximumQuery
    let run := (prices settings (some granularity) period).outcome s
    (maxQueries * granularity.maximumQuery < duration → run = (.error tooLong, s)) ∧
    (duration ≤ maxQueries * granularity.maximumQuery →
      run.1 ≠ .error tooLong ∧
      widened.FallsInto windows ∧
      (∀ window ∈ windows, window.start < window.stop ∧
        window.stop - window.start ≤ granularity.maximumQuery) ∧
      1 ≤ windows.length ∧ windows.length ≤ maxQueries + 1 ∧
      (∀ series, run.1 = .ok series → ∃ sent, run.2.requests = s.requests ++ sent ∧
        InBatches (AsksFor granularity) settings.retry.maxAttempts.toNat windows sent) ∧
      ∀ found t, Ends (windows.mapM (windowPrices settings granularity)) s found t →
        Forall₂ (Price.AtEach granularity.aggregation) windows found →
        run = (.ok (Price.sort found.flatten), t) ∧
          ∀ time, period.start ≤ time → time ≤ period.stop →
            ∃ price, Price.lookup (Price.sort found.flatten) time = .ok price ∧
              price.timestamp ≤ time ∧ time - granularity.aggregation ≤ price.timestamp) := by
  intro duration tooLong widened windows run
  have hsound := Granularity.sound_of_mem hmem
  have hpos := hsound.aggregation_pos
  have hprice := hsound.aggregation_le_reach
  have hlimit : maxQueries * granularity.maximumQuery = granularity.reach := Int.mul_comm _ _
  rw [hlimit]
  constructor
  · intro hlong
    have hlonger : granularity.reach < period.stop - period.start := by omega
    exact outcome_prices_of_long hmem hspan hlonger settings s
  · intro hshort
    have hreach : period.stop - period.start ≤ granularity.reach := by omega
    have hnonempty : widened.start < widened.stop := by
      simp only [widened]
      omega
    have hfalls : widened.FallsInto windows :=
      Period.fallsInto_windows hsound.maximumQuery_pos hnonempty
    refine ⟨?_, hfalls, fun window hwindow => Period.bounds_of_mem_windows hwindow,
      List.length_pos_iff.mpr hfalls.ne_nil, length_windows_le hmem hreach, ?_, ?_⟩
    · intro hrefused
      have hcheck := (checkReach_eq_ok_iff hmem).mpr hreach
      have hcovers : PriceRequest.withinReach.CoversRun _ s :=
        coversRun_prices_of_mem settings hmem (covers_of_eq_ok hcheck)
      exact hcovers _ hrefused ⟨_, rfl⟩
    · intro series hseries
      obtain ⟨found, hfound, -⟩ := (ends_prices_iff hmem hreach).mp (ends_of_outcome hseries)
      exact Asks.mapM (asks_windowPrices settings granularity) hfound
    · intro found t hfound hquoted
      exact ⟨(ends_prices_iff hmem hreach).mpr ⟨found, hfound, rfl⟩,
        fun time => exists_recent hpos hfalls hquoted⟩

/-- A service that is asked for the two hours before a time and has a price at the beginning of each
of them. -/
def hourlySession : Session where
  replies := { listed := [
    { body := .ok ("\x7b\"data\": [\x7b\"time\": 3600000, \"priceUsd\": \"100\"\x7d, " ++
        "\x7b\"time\": 7200000, \"priceUsd\": \"200\"\x7d]\x7d") }] }

/-- The window of these two hours. -/
theorem windows_lastHour :
    (Period.mk 3600 10800).windows Granularity.hourly.maximumQuery = [⟨3600, 10800⟩] := by
  rw [Period.windows, dif_pos (by decide), Period.windows, dif_neg (by decide)]
  rfl

/-- For the last hour of two the price at its end is as old as may be, and a second more than five
times 30 days are refused. -/
theorem windows_suffice_lastHour :
    let s := hourlySession
    let windows := (Period.mk 3600 10800).windows Granularity.hourly.maximumQuery
    (∃ found t, Ends (windows.mapM (windowPrices {} Granularity.hourly)) s found t ∧
      found.map (·.map (·.timestamp)) = [[3600, 7200]] ∧
      Forall₂ (Price.AtEach Granularity.hourly.aggregation) windows found ∧
      (prices {} (some Granularity.hourly) ⟨7200, 10800⟩).outcome s =
        (.ok (Price.sort found.flatten), t) ∧
      ∃ price, Price.lookup (Price.sort found.flatten) 10800 = .ok price ∧
        price.timestamp ≤ 10800 ∧ 7200 ≤ price.timestamp) ∧
    (prices {} (some Granularity.hourly) ⟨0, 12960001⟩).outcome s =
      (.error (.request (.periodTooLong "h1")), s) := by
  intro s windows
  have hmem : Granularity.hourly ∈ Granularity.all := by decide
  constructor
  · obtain ⟨found, hfound, htimes⟩ : ∃ found,
        Ends (windows.mapM (windowPrices {} Granularity.hourly)) s found _ ∧
          found.map (·.map (·.timestamp)) = [[3600, 7200]] := by
      apply exists_ends_of_outcome
      simp only [windows, windows_lastHour]
      decide +kernel
    have hquoted : Forall₂ (Price.AtEach Granularity.hourly.aggregation) windows found := by
      refine Price.forall₂_atEach htimes ?_
      simp only [windows, windows_lastHour]
      refine .cons ?_ .nil
      intro time hstep hcontains
      have hmultiple : (3600 : Int) ∣ time := hstep
      have hbounds := (Period.contains_iff _ _).mp hcontains
      simp only [List.mem_cons, List.not_mem_nil, or_false] at hbounds ⊢
      omega
    have hperiod : (Period.mk 7200 10800).start ≤ (Period.mk 7200 10800).stop := by decide
    obtain ⟨-, hsuffice⟩ := windows_suffice hmem hperiod (by decide) {} s
    obtain ⟨-, -, -, -, -, -, hprices⟩ := hsuffice (by decide)
    obtain ⟨hrun, hlookup⟩ := hprices found _ hfound hquoted
    exact ⟨found, _, hfound, htimes, hquoted, hrun, hlookup 10800 (by decide) (by decide)⟩
  · have hperiod : (Period.mk 0 12960001).start ≤ (Period.mk 0 12960001).stop := by decide
    obtain ⟨hrefused, -⟩ := windows_suffice hmem hperiod (by decide) {} s
    exact hrefused (by decide)

end CoinCap
end NodeLedger
