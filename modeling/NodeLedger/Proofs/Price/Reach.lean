import NodeLedger.Proofs.Numeral.Quotient
import NodeLedger.Proofs.Price.Cause

/-!
# How far the queries of a granularity reach

Two limits are set to the length of a period.  The finest granularity is chosen by a product: the
longest query, as often as queries are allowed.  A period is refused by a quotient: its length, but
at least the distance of two prices, divided by the longest query and rounded up.  The two agree, so
a period is never refused for the granularity that was chosen for it.

Main results:

- Structure `Granularity.IsFinest` and theorem `Granularity.finest_eq_ok_iff`: what is chosen for a
  duration.
- Theorems `CoinCap.checkReach_eq_ok_iff` and `CoinCap.checkReach_eq_error`: which periods are not
  refused, and for what others are.
- Theorem `CoinCap.coversRun_prices_of_mem`: with a granularity that is offered, prices are missing
  for no request but one for too long a period.
-/

namespace NodeLedger

open List NodeLedger.Action NodeLedger.Causes NodeLedger.Numeral

/-! ## The granularities that are offered -/

namespace Granularity

variable {granularity : Granularity} {duration : Int}

/-- What all granularities that are offered have in common: the numbers are positive and not too
large to be divided, and one price lies within reach. -/
structure Sound (granularity : Granularity) : Prop where
  aggregation_pos : 0 < granularity.aggregation
  maximumQuery_pos : 0 < granularity.maximumQuery
  maximumQuery_le : granularity.maximumQuery ≤ 2 ^ 40
  aggregation_le_reach : granularity.aggregation ≤ granularity.reach
  reach_le : granularity.reach ≤ maxQueries * (7305 * Calendar.day)

theorem sound_of_mem (h : granularity ∈ all) : granularity.Sound := by
  have hall : ∀ granularity ∈ all, 0 < granularity.aggregation ∧ 0 < granularity.maximumQuery ∧
      granularity.maximumQuery ≤ 2 ^ 40 ∧ granularity.aggregation ≤ granularity.reach ∧
      granularity.reach ≤ maxQueries * (7305 * Calendar.day) := by decide
  obtain ⟨hpos, hquery, hsmall, hprice, hreach⟩ := hall granularity h
  exact ⟨hpos, hquery, hsmall, hprice, hreach⟩

/-- The granularities stand in the order of the distances of their prices. -/
theorem pairwise_all :
    all.Pairwise fun finer coarser => finer.aggregation < coarser.aggregation := by
  decide

/-- A label names a granularity that is offered. -/
theorem mem_of_ofLabel {label : Value} (h : ofLabel label = .ok granularity) :
    granularity ∈ all := by
  unfold ofLabel at h
  split at h
  case h_1 found hfound =>
    cases h
    exact List.mem_of_find?_eq_some hfound
  case h_2 => cases h

/-- The granularity that is finest among those that are offered and reach over a duration. -/
structure IsFinest (granularity : Granularity) (duration : Int) : Prop where
  mem : granularity ∈ all
  covers : duration ≤ granularity.reach
  least : ∀ other ∈ all, duration ≤ other.reach → granularity.aggregation ≤ other.aggregation

/-- The first granularity that reaches over a duration is the finest one, and there is no other. -/
theorem finest_eq_ok_iff : finest duration = .ok granularity ↔ granularity.IsFinest duration := by
  unfold finest
  cases hfound : all.find? fun granularity => decide (duration ≤ granularity.reach) with
  | none =>
    rw [List.find?_eq_none] at hfound
    constructor
    · rintro ⟨⟩
    · rintro ⟨hmem, hcovers, -⟩
      exact absurd (decide_eq_true hcovers) (hfound granularity hmem)
  | some found =>
    obtain ⟨hcovers, finer, coarser, hall, hfiner⟩ := List.find?_eq_some_iff_append.mp hfound
    have hmem : found ∈ all := by rw [hall]; simp
    have hordered := pairwise_all
    rw [hall, List.pairwise_append, List.pairwise_cons] at hordered
    have hleast : ∀ other ∈ all, duration ≤ other.reach →
        other = found ∨ found.aggregation < other.aggregation := by
      intro other hother hreach
      rw [hall, List.mem_append, List.mem_cons] at hother
      rcases hother with hother | rfl | hother
      · simpa [hreach] using hfiner other hother
      · exact .inl rfl
      · exact .inr (hordered.2.1.1 other hother)
    constructor
    · rintro ⟨⟩
      refine ⟨hmem, of_decide_eq_true hcovers, fun other hother hreach => ?_⟩
      rcases hleast other hother hreach with rfl | hlt <;> omega
    · rintro ⟨hmem', hcovers', hleast'⟩
      rcases hleast granularity hmem' hcovers' with rfl | hlt
      · rfl
      · have := hleast' found hmem (of_decide_eq_true hcovers)
        omega

end Granularity

/-! ## Periods that are not refused -/

namespace CoinCap

variable {granularity : Granularity} {period : Period} {causes : Causes} {s : Session}

/-- The queries that a duration takes are at most those that are allowed just if the granularity
reaches over the duration. -/
theorem queryCount?_le_iff {duration : Int} (h : granularity.Sound) (hpos : 0 < duration) :
    (∃ count, queryCount? granularity duration = some count ∧ count ≤ maxQueries) ↔
      duration ≤ granularity.reach := by
  have hquery := h.maximumQuery_pos
  have hsmall := h.maximumQuery_le
  have hcount : (∃ count, (Binary64.ofQuotient false duration.natAbs
      granularity.maximumQuery.natAbs).ceiling? = some count ∧ count ≤ (5 : Nat)) ↔
        duration.natAbs ≤ 5 * granularity.maximumQuery.natAbs :=
    Binary64.ceiling?_ofQuotient_le_iff (by omega) (by omega) (by omega) (by omega)
  unfold queryCount?
  rw [decide_eq_false (by omega)]
  refine hcount.trans ?_
  unfold Granularity.reach maxQueries
  omega

/-- A period is not refused just if the granularity reaches over it. -/
theorem checkReach_eq_ok_iff (hmem : granularity ∈ Granularity.all) :
    checkReach granularity period = .ok () ↔ period.stop - period.start ≤ granularity.reach := by
  have hsound := Granularity.sound_of_mem hmem
  have hprice := hsound.aggregation_le_reach
  have hpos := hsound.aggregation_pos
  have hwidened : max (period.stop - period.start) granularity.aggregation ≤ granularity.reach ↔
      period.stop - period.start ≤ granularity.reach := by omega
  rw [← hwidened, ← queryCount?_le_iff hsound (by omega)]
  unfold checkReach
  dsimp only
  cases queryCount? granularity (max (period.stop - period.start) granularity.aggregation) with
  | none => simp
  | some count =>
    by_cases hmany : maxQueries < count
    · simp [hmany]
    · simp [hmany]
      omega

/-- A period is refused for its length if the granularity does not reach over it, unless it is so
long that the quotient is no number. -/
theorem checkReach_eq_error (hmem : granularity ∈ Granularity.all)
    (hspan : period.stop - period.start < 2 ^ 53)
    (h : granularity.reach < period.stop - period.start) :
    checkReach granularity period = .error (.request (.periodTooLong granularity.label)) := by
  have hsound := Granularity.sound_of_mem hmem
  have hprice := hsound.aggregation_le_reach
  have hpos := hsound.aggregation_pos
  have hrefused : checkReach granularity period ≠ .ok () := by
    rw [Ne, checkReach_eq_ok_iff hmem]
    omega
  obtain ⟨count, hcount⟩ : ∃ count, queryCount? granularity
      (max (period.stop - period.start) granularity.aggregation) = some count :=
    Binary64.exists_ceiling?_ofQuotient (by omega) _ _
  unfold checkReach at hrefused ⊢
  dsimp only at hrefused ⊢
  rw [hcount] at hrefused ⊢
  by_cases hmany : maxQueries < count
  · exact if_pos hmany
  · exact absurd (if_neg hmany) hrefused

/-- With a granularity that is offered, prices are missing for none of the faults of a request but
those for which the period is refused. -/
theorem coversRun_prices_of_mem [causes.OfQuotes] (settings : QuerySettings)
    (hmem : granularity ∈ Granularity.all)
    (hreach : causes.Covers (checkReach granularity period)) :
    causes.CoversRun (prices settings (some granularity) period) s := by
  unfold prices
  simp [hmem, hreach]

end CoinCap

end NodeLedger
