import NodeLedger.Proofs.Price.Series
import NodeLedger.Proofs.Record.Selection
import NodeLedger.Proofs.Session.Frame
import NodeLedger.Request

/-!
# Prices given by the caller

A caller may bring prices along, in any order.  They are accepted only if one of them is quoted
before the period begins.  Put in the order of their times they then have a price at any time of the
period, and in the currency wanted they need no conversion: no price service is asked.

Main results:

- Structure `PriceConfig.TakesGiven`: all prices are given, in the currency that is wanted.
- Theorem `PriceRequest.exists_earlier_of_config`: one of the prices that are accepted is quoted
  before the period.
- Theorem `Price.exists_lookup_sort`: then there is a price at any time from the start of the period
  on.
- Theorem `PriceSource.outcome_prices_of_given`: the series is that of the prices given, and the
  session stays as it is.
-/

namespace NodeLedger

open List NodeLedger.Action NodeLedger.Text

/-- All prices are given by the caller, in the currency that is wanted. -/
structure PriceConfig.TakesGiven (config : PriceConfig) : Prop where
  backend : config.backend = .custom
  currency : ∀ point ∈ config.pricePoints, upper point.currency = upper config.currency

/-! ## Prices that are accepted -/

/-- Prices are checked to have one before a time. -/
theorem Price.checkEarlier_eq_ok_iff {prices : List Price} {start : Int} {u : Unit} :
    checkEarlier prices start = .ok u ↔ ∃ price ∈ prices, price.timestamp < start := by
  have hany : (prices.any fun price => decide (price.timestamp < start)) = true ↔
      ∃ price ∈ prices, price.timestamp < start := by simp
  rw [← hany]
  unfold checkEarlier
  cases prices.any fun price => decide (price.timestamp < start) <;> simp

namespace PriceRequest

variable {request : PriceRequest} {settings : Settings} {period : Period} {config : PriceConfig}

/-- What a caller asks for about prices is checked, and the prices that he gives are; the
granularity is chosen for the backend. -/
theorem checks_of_config (h : request.config settings period = .ok config) :
    config.check = .ok () ∧
      (config.backend = .custom →
        Price.checkEarlier config.pricePoints period.start = .ok ()) ∧
      chooseGranularity (request.granularity.orElse (.text settings.granularity)) config.backend
        period = .ok config.granularity := by
  unfold PriceRequest.config at h
  obtain ⟨backend, -, h⟩ := bind_eq_ok_iff.mp h
  obtain ⟨currency, -, h⟩ := bind_eq_ok_iff.mp h
  obtain ⟨granularity, hchosen, h⟩ := bind_eq_ok_iff.mp h
  obtain ⟨pricePoints, -, h⟩ := bind_eq_ok_iff.mp h
  by_cases hunexpected : (!pricePoints.isEmpty && decide (backend ≠ .custom)) = true
  · rw [if_pos hunexpected] at h
    cases h
  · rw [if_neg hunexpected] at h
    obtain ⟨_, hcheck, h⟩ := bind_eq_ok_iff.mp h
    by_cases hcustom : backend = .custom
    · rw [if_pos hcustom] at h
      obtain ⟨_, hearlier, h⟩ := bind_eq_ok_iff.mp h
      cases h
      exact ⟨hcheck, fun _ => hearlier, hchosen⟩
    · rw [if_neg hcustom] at h
      cases h
      exact ⟨hcheck, fun h => absurd h hcustom, hchosen⟩

/-- Of the prices given for a period one is quoted before it. -/
theorem exists_earlier_of_config (h : request.config settings period = .ok config)
    (hcustom : config.backend = .custom) :
    ∃ point ∈ config.pricePoints, point.timestamp < period.start :=
  Price.checkEarlier_eq_ok_iff.mp ((checks_of_config h).2.1 hcustom)

end PriceRequest

/-! ## A price at any time -/

namespace Price

/-- In a series in order there is a price at any time by which one is quoted. -/
theorem exists_lookup {series : List Price} {time : Int}
    (hsorted : series.Pairwise fun p q => p.timestamp ≤ q.timestamp)
    (hquoted : ∃ price ∈ series, price.timestamp ≤ time) :
    ∃ price, lookup series time = .ok price := by
  obtain ⟨quoted, hmem, hle⟩ := hquoted
  have hkept : quoted ∈ series.takeWhile fun price => decide (price.timestamp ≤ time) := by
    rw [Order.takeWhile_eq_filter Price.timestamp time hsorted]
    exact List.mem_filter.mpr ⟨hmem, decide_eq_true hle⟩
  have hnonempty : series.isEmpty = false := by
    cases series with
    | nil => cases hmem
    | cons => rfl
  cases hlast : lastBy series time with
  | some price => exact ⟨price, by simp [lookup, hnonempty, hlast]⟩
  | none =>
    rw [lastBy, List.getLast?_eq_none_iff] at hlast
    rw [hlast] at hkept
    cases hkept

/-- So there is one among prices put in order, in whatever order they were. -/
theorem exists_lookup_sort {points : List Price} {start time : Int}
    (hearlier : ∃ point ∈ points, point.timestamp < start) (htime : start ≤ time) :
    ∃ price, lookup (Price.sort points) time = .ok price := by
  obtain ⟨point, hmem, hlt⟩ := hearlier
  refine exists_lookup (Order.pairwise_mergeSort Price.timestamp points) ?_
  exact ⟨point, List.mem_mergeSort.mpr hmem, by omega⟩

end Price

/-! ## The series -/

namespace PriceSource

variable {config : PriceConfig} {settings : QuerySettings} {source : PriceSource}

/-- A source that is made for a configuration has its prices from the backend. -/
theorem make_eq_ok_iff :
    make (some config) settings = .ok source ↔
      config.check = .ok () ∧ source = { config, settings } := by
  unfold make
  simp only [bind_eq_ok_iff]
  constructor
  · rintro ⟨_, hcheck, h⟩
    cases h
    exact ⟨hcheck, rfl⟩
  · rintro ⟨hcheck, rfl⟩
    exact ⟨(), hcheck, rfl⟩

/-- Prices in the currency that is wanted are not converted. -/
theorem convert_of_isIn {currency : String} {prices : List Price}
    (h : ∀ price ∈ prices, isIn currency price = true) (rate : Option Decimal) :
    source.convert currency rate prices = pure prices := by
  induction prices with
  | nil => rfl
  | cons price rest ih =>
    rw [List.forall_mem_cons] at h
    rw [convert, if_pos h.1, ih h.2, pure_bind]

/-- If all prices are given the series is made of them, and the session stays as it is. -/
theorem outcome_prices_of_given (h : make (some config) settings = .ok source)
    (hgiven : config.TakesGiven) (period : Period) (s : Session) :
    (source.prices period).outcome s =
      (do period.check { past := true } s.now; return Price.sort config.pricePoints, s) := by
  obtain ⟨-, rfl⟩ := make_eq_ok_iff.mp h
  have hquotes : PriceBackend.prices settings config period = pure config.pricePoints := by
    simp [PriceBackend.prices, hgiven.backend]
  have hin : ∀ price ∈ Price.sort config.pricePoints, isIn (upper config.currency) price = true := by
    intro price hprice
    exact beq_iff_eq.mpr (hgiven.currency price (List.mem_mergeSort.mp hprice))
  unfold prices
  simp only [hquotes, pure_bind, convert_of_isIn hin]
  have hnow : now.outcome s = (.ok s.now, s) := rfl
  rw [outcome_bind, hnow]
  dsimp only
  rw [outcome_bind, outcome_lift]
  cases period.check { past := true } s.now <;> rfl

/-! ## Prices at some times -/

/-- Times that are put in order already stay the same. -/
theorem ascending_mergeSort (times : List Int) :
    ascending (times.mergeSort fun a b => decide (a ≤ b)) = ascending times := by
  have hsorted := Order.pairwise_mergeSort id times
  have hsame : (times.mergeSort fun a b => decide (a ≤ b)).mergeSort (fun a b => decide (a ≤ b)) =
      times.mergeSort fun a b => decide (a ≤ b) :=
    List.mergeSort_of_pairwise (hsorted.imp fun h => decide_eq_true h)
  unfold ascending
  rw [hsame]

theorem mem_ascending {times : List Int} {time : Int} : time ∈ ascending times ↔ time ∈ times := by
  unfold ascending
  rw [List.mem_eraseDups, List.mem_mergeSort]

/-- Times in order reach from the first of them to one that is not before it. -/
theorem exists_ends_ascending {times : List Int} (h : times ≠ []) :
    ∃ start stop, (ascending times).head? = some start ∧ (ascending times).getLast? = some stop ∧
      start ≤ stop ∧ stop ∈ times := by
  cases hsorted : times.mergeSort fun a b => decide (a ≤ b) with
  | nil =>
    have hperm := List.mergeSort_perm times fun a b => decide (a ≤ b)
    rw [hsorted] at hperm
    exact absurd hperm.symm.eq_nil h
  | cons start rest =>
    obtain ⟨rest', hordered⟩ : ∃ rest', ascending times = start :: rest' := by
      unfold ascending
      rw [hsorted]
      exact ⟨_, List.eraseDups_cons⟩
    cases hstop : (ascending times).getLast? with
    | none =>
      rw [hordered] at hstop
      cases List.getLast?_eq_none_iff.mp hstop
    | some stop =>
      have hmem : stop ∈ times := mem_ascending.mp (List.mem_of_getLast? hstop)
      have hhead : (times.mergeSort fun a b => decide (a ≤ b)).head? = some start := by
        rw [hsorted, List.head?_cons]
      refine ⟨start, stop, by rw [hordered, List.head?_cons], rfl, ?_, hmem⟩
      exact Order.head_le_of_mergeSort id hhead hmem

/-- If all prices are given, and one of them is quoted before each of some times that are over, then
there is a price for each of these times. -/
theorem ends_pricesAt_of_given (h : make (some config) settings = .ok source)
    (hgiven : config.TakesGiven) {times : List Int} {s : Session} (hne : times ≠ [])
    (hpast : ∀ time ∈ times, time ≤ s.now)
    (hquoted : ∀ time ∈ times, ∃ point ∈ config.pricePoints, point.timestamp < time) :
    ∃ prices line, Ends (pricesAt (.ok source) times) s prices (s.write line) ∧
      Forall₂ (fun time (entry : Int × Price) => entry.1 = time ∧
        Price.lookup (Price.sort config.pricePoints) time = .ok entry.2)
        (ascending times) prices := by
  obtain ⟨start, stop, hstart, hstop, hle, hmem⟩ := exists_ends_ascending hne
  have hprice : ∀ time ∈ ascending times, ∃ entry : Int × Price, entry.1 = time ∧
      Price.lookup (Price.sort config.pricePoints) time = .ok entry.2 := by
    intro time htime
    obtain ⟨price, hprice⟩ :=
      Price.exists_lookup_sort (hquoted time (mem_ascending.mp htime)) (Int.le_refl time)
    exact ⟨(time, price), rfl, hprice⟩
  obtain ⟨prices, hprices⟩ := exists_forall₂ hprice
  have hseries : ∀ line,
      Ends (source.prices ⟨start, stop⟩) (s.write line) (Price.sort config.pricePoints)
        (s.write line) := by
    intro line
    have hcheck : (Period.mk start stop).check { past := true } s.now = .ok () :=
      Period.check_eq_ok_iff.mpr ⟨hle, by simp, fun _ => hpast stop hmem⟩
    unfold Ends
    rw [outcome_prices_of_given h hgiven, Session.now_write, hcheck]
    rfl
  have hlookups : ∀ t : Session,
      Ends ((ascending times).mapM fun time => do
        return (time, ← Price.lookup (Price.sort config.pricePoints) time)) t prices t := by
    intro t
    refine ends_mapM_of_forall₂ (hprices.imp ?_)
    rintro time ⟨_, price⟩ ⟨rfl, hprice⟩
    simp only [ends_bind, ends_lift, ends_pure]
    exact ⟨price, t, ⟨hprice, rfl⟩, rfl, rfl⟩
  unfold pricesAt
  simp only [hstart, hstop, ends_bind, ends_log, ends_lift]
  exact ⟨prices, _, ⟨(), _, rfl, source, _, ⟨rfl, rfl⟩, _, _, hseries _, hlookups _⟩, hprices⟩

end PriceSource

end NodeLedger
