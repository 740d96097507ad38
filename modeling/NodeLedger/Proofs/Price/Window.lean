import Mathlib.Order.Bounds.Defs
import NodeLedger.Price.Window
import NodeLedger.Proofs.Price.Custom

/-!
# Windows that cover a period

A period that is too long for one query falls into windows, one behind the other, and what is found
in each of them is put together.  If each window has a price at every multiple of a step, so has the
whole period; then there is a price at every time from which the last multiple lies in the period,
and it is not older than the step.

Main results:

- Structure `Period.FallsInto`: parts that follow one another from the start of a period to its stop.
- Theorem `Period.fallsInto_windows`: a period falls into its windows.  Theorems
  `Period.bounds_of_mem_windows` and `Period.length_windows_le`: none of them is empty or too wide,
  and there are not too many.
- Theorem `Period.FallsInto.atEach`: prices at every step of the parts are such of the whole.
- Theorem `Price.exists_recent`: with prices at every step there is a recent one.
-/

namespace NodeLedger

open List

namespace Period

variable {width : Int} {period : Period} {parts : List Period}

/-! ## Parts that follow one another -/

/-- A period falls into parts: the first of them begins where the period begins, each of the others
where the one before it ends, and the last one ends where the period ends. -/
structure FallsInto (period : Period) (parts : List Period) : Prop where
  begins : parts.head?.map (·.start) = some period.start
  ends : parts.getLast?.map (·.stop) = some period.stop
  follow : parts.IsChain fun part next => part.stop = next.start

namespace FallsInto

/-- A period falls into itself. -/
theorem single (period : Period) : period.FallsInto [period] where
  begins := rfl
  ends := rfl
  follow := .singleton period

/-- A period falls into a part and the parts of what is behind it. -/
theorem cons {part : Period} (hstart : part.start = period.start)
    (h : FallsInto ⟨part.stop, period.stop⟩ parts) : period.FallsInto (part :: parts) := by
  cases parts with
  | nil => cases h.begins
  | cons next rest =>
    have hnext : next.start = part.stop := Option.some.inj h.begins
    exact ⟨congrArg some hstart, h.ends, .cons_cons hnext.symm h.follow⟩

/-- What is behind the first of several parts falls into the others. -/
theorem tail {part next : Period} (h : period.FallsInto (part :: next :: parts)) :
    FallsInto ⟨part.stop, period.stop⟩ (next :: parts) := by
  obtain ⟨hnext, hrest⟩ := List.isChain_cons_cons.mp h.follow
  exact ⟨congrArg some hnext.symm, h.ends, hrest⟩

theorem ne_nil (h : period.FallsInto parts) : parts ≠ [] := by
  rintro rfl
  cases h.begins

/-- Every time of a period lies in one of the parts. -/
theorem exists_contains (h : period.FallsInto parts) {time : Int}
    (htime : period.contains time = true) : ∃ part ∈ parts, part.contains time = true := by
  rw [contains_iff] at htime
  induction parts generalizing period with
  | nil => exact absurd rfl h.ne_nil
  | cons part rest ih =>
    have hstart : part.start = period.start := Option.some.inj h.begins
    by_cases hbefore : time < part.stop
    · refine ⟨part, List.mem_cons_self, (contains_iff part time).mpr ⟨?_, hbefore⟩⟩
      omega
    · cases rest with
      | nil =>
        have hstop : part.stop = period.stop := Option.some.inj h.ends
        omega
      | cons next rest =>
        have hbehind : part.stop ≤ time := Int.not_lt.mp hbefore
        obtain ⟨found, hfound, hcontains⟩ := ih h.tail ⟨hbehind, htime.2⟩
        exact ⟨found, List.mem_cons_of_mem part hfound, hcontains⟩

end FallsInto

/-! ## Windows -/

/-- A period has windows unless it is empty. -/
theorem windows_eq_nil_iff (hwidth : 0 < width) :
    period.windows width = [] ↔ period.stop ≤ period.start := by
  unfold windows
  split
  case isTrue h => simp only [reduceCtorEq, false_iff, Int.not_le, h.2]
  case isFalse h => simp only [true_iff]; omega

/-- A period that is not empty falls into its windows. -/
theorem fallsInto_windows (hwidth : 0 < width) (hperiod : period.start < period.stop) :
    period.FallsInto (period.windows width) := by
  fun_induction windows width period with
  | case1 period h ih =>
    by_cases hrest : (period.afterFirst width).start < (period.afterFirst width).stop
    · exact .cons rfl (ih hrest)
    · -- The first window is the last one, as nothing is left behind it.
      have hnone : (period.afterFirst width).windows width = [] :=
        (windows_eq_nil_iff hwidth).mpr (Int.not_lt.mp hrest)
      have hwhole : period.first width = period := by
        have hstop : (period.first width).stop = period.stop := by
          simp only [afterFirst, first] at hrest ⊢
          omega
        exact congrArg (Period.mk period.start) hstop
      rw [hnone, hwhole]
      exact .single period
  | case2 period h => exact absurd ⟨hwidth, hperiod⟩ h

/-- No window is empty or wider than allowed. -/
theorem bounds_of_mem_windows {window : Period} (h : window ∈ period.windows width) :
    window.start < window.stop ∧ window.stop - window.start ≤ width := by
  fun_induction windows width period with
  | case1 period hperiod ih =>
    rcases List.mem_cons.mp h with rfl | hrest
    · simp only [first]
      omega
    · exact ih hrest
  | case2 => cases h

/-- A period has no more windows than are needed for its length. -/
theorem length_windows_le {count : Nat} (h : period.stop - period.start ≤ count * width) :
    (period.windows width).length ≤ count := by
  fun_induction windows width period generalizing count with
  | case1 period hperiod ih =>
    cases count with
    | zero => simp at h; omega
    | succ count =>
      have hrest : (period.afterFirst width).stop - (period.afterFirst width).start ≤
          count * width := by
        have hsplit : ((count + 1 : Nat) : Int) * width = count * width + width := by
          push_cast
          rw [Int.add_mul, Int.one_mul]
        have hpos : 0 ≤ count * width := Int.mul_nonneg (Int.natCast_nonneg count) (by omega)
        simp only [afterFirst, first]
        omega
      rw [List.length_cons]
      exact Nat.succ_le_succ (ih hrest)
  | case2 => exact Nat.zero_le count

end Period

/-! ## Prices at every step -/

/-- There is a price at every multiple of a step in a period. -/
def Price.AtEach (step : Int) (period : Period) (prices : List Price) : Prop :=
  ∀ time, step ∣ time → period.contains time = true → time ∈ prices.map (·.timestamp)

/-- That there are prices at every step of some parts is seen by their times alone. -/
theorem Price.forall₂_atEach {step : Int} {parts : List Period} {found : List (List Price)}
    {times : List (List Int)} (htimes : found.map (·.map (·.timestamp)) = times)
    (h : Forall₂ (fun part times => ∀ time, step ∣ time → part.contains time = true → time ∈ times)
      parts times) : Forall₂ (Price.AtEach step) parts found := by
  rw [← htimes, List.forall₂_map_right_iff] at h
  exact h

/-- Prices at every step of the parts of a period are prices at every step of the period. -/
theorem Period.FallsInto.atEach {step : Int} {period : Period} {parts : List Period}
    {found : List (List Price)} (h : period.FallsInto parts)
    (hfound : Forall₂ (Price.AtEach step) parts found) :
    Price.AtEach step period found.flatten := by
  intro time hstep htime
  obtain ⟨part, hpart, hcontains⟩ := h.exists_contains htime
  obtain ⟨prices, hprices, hat⟩ := exists_of_mem_right hfound.flip hpart
  rw [List.map_flatten]
  exact List.mem_flatten.mpr ⟨_, List.mem_map_of_mem hprices, hat time hstep hcontains⟩

namespace Price

variable {step time stop : Int}

/-- The last multiple of a step that is not behind a time. -/
theorem isGreatest_multiple (hstep : 0 < step) (time : Int) :
    IsGreatest {n | step ∣ n ∧ n ≤ time} (step * (time / step)) := by
  have hsplit := Int.mul_ediv_add_emod time step
  have hrest := Int.emod_nonneg time (Int.ne_of_gt hstep)
  refine ⟨⟨Int.dvd_mul_right _ _, by omega⟩, ?_⟩
  rintro _ ⟨⟨k, rfl⟩, hle⟩
  have hk : k ≤ time / step := (Int.le_ediv_iff_mul_le hstep).mpr (by rwa [Int.mul_comm])
  exact Int.mul_le_mul_of_nonneg_left hk (Int.le_of_lt hstep)

/-- The last multiple of a step that is neither behind a time nor at the stop of a period is not
older than a step. -/
theorem exists_last_multiple (hstep : 0 < step) (htime : time ≤ stop) :
    ∃ last, IsGreatest {n | step ∣ n ∧ n ≤ time ∧ n < stop} last ∧ time - step ≤ last := by
  obtain ⟨⟨hmultiple, hle⟩, hlast⟩ := isGreatest_multiple hstep time
  have hsplit := Int.mul_ediv_add_emod time step
  have hless := Int.emod_lt_of_pos time hstep
  generalize step * (time / step) = floor at hmultiple hle hlast hsplit
  by_cases hbefore : floor < stop
  · refine ⟨floor, ⟨⟨hmultiple, hle, hbefore⟩, ?_⟩, by omega⟩
    rintro n ⟨hn, hnle, -⟩
    exact hlast ⟨hn, hnle⟩
  · -- The time is the stop, and a multiple itself; the one before it is the last.
    have hfloor : floor = time := by omega
    obtain ⟨k, rfl⟩ := hmultiple
    have hback : step * (k - 1) = time - step := by rw [Int.mul_sub, Int.mul_one, hfloor]
    refine ⟨step * (k - 1), ⟨⟨Int.dvd_mul_right _ _, by omega, by omega⟩, ?_⟩, by omega⟩
    rintro n ⟨⟨j, rfl⟩, -, hlt⟩
    have hj : j < k := Int.lt_of_mul_lt_mul_left (by omega) (Int.le_of_lt hstep)
    exact Int.mul_le_mul_of_nonneg_left (by omega) (Int.le_of_lt hstep)

/-- If there are prices at every step of a period, there is one at each time up to the stop from
which the last multiple lies in the period.  It is not older than a step. -/
theorem exists_recent {start : Int} {prices : List Price} (hstep : 0 < step)
    (hprices : AtEach step ⟨start, stop⟩ prices) (htime : time ≤ stop)
    (hstart : ∀ last, IsGreatest {n | step ∣ n ∧ n ≤ time ∧ n < stop} last →
      time - step ≤ last → start ≤ last) :
    ∃ price, lookup (sort prices) time = .ok price ∧ price.timestamp ≤ time ∧
      time - step ≤ price.timestamp := by
  obtain ⟨last, hlast, hrecent⟩ := exists_last_multiple hstep htime
  obtain ⟨hmultiple, hle, hbefore⟩ := hlast.1
  obtain ⟨quoted, hquoted, hat⟩ := List.mem_map.mp (hprices last hmultiple
    ((Period.contains_iff _ _).mpr ⟨hstart last hlast hrecent, hbefore⟩))
  have hmem : quoted ∈ sort prices := List.mem_mergeSort.mpr hquoted
  have hsorted := Order.pairwise_mergeSort Price.timestamp prices
  have hby : ∃ price ∈ sort prices, price.timestamp ≤ time := ⟨quoted, hmem, by omega⟩
  obtain ⟨price, hprice⟩ := exists_lookup hsorted hby
  obtain ⟨-, hnotLater, hlatest⟩ := latest_of_lookup hsorted hprice
  have := hlatest quoted hmem (by omega)
  exact ⟨price, hprice, hnotLater, by omega⟩

end Price

end NodeLedger
