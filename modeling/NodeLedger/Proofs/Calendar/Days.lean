import Mathlib.Data.List.Sort
import NodeLedger.Calendar

/-!
# Days of the calendar

A day has a count, and a count is the count of one day.  The year of a day is the last one that has
begun, and its month the last one of that year.  So the day with a count is a day that there is, and
it has that count.

Main results:

- Theorem `Calendar.daysBeforeYear_succ`: how many days a year has.
- Theorem `Calendar.le_yearOf_iff`: a year has begun on the days that are counted after it begins.
- Definition `Calendar.Date.Exists`: the days that there are.
- Theorems `Calendar.exists_ofDays` and `Calendar.toDays_ofDays`: the day with a count.
-/

namespace NodeLedger.Calendar

open List

/-! ## Years -/

/-- The number of days of a year. -/
def yearLength (leap : Bool) : Nat :=
  if leap then 366 else 365

/-- Every fourth year has a day more, but of the years that end a century only every fourth. -/
theorem daysBeforeYear_eq (year : Int) : daysBeforeYear year =
    365 * (year - 1) + (year - 1) / 4 - (year - 1) / 100 + (year - 1) / 400 :=
  rfl

/-- A year is over after its days. -/
theorem daysBeforeYear_succ (year : Int) :
    daysBeforeYear (year + 1) = daysBeforeYear year + yearLength (isLeap year) := by
  have hleap : isLeap year = true ↔ year % 4 = 0 ∧ (year % 100 ≠ 0 ∨ year % 400 = 0) := by
    simp [isLeap]
  rw [daysBeforeYear_eq, daysBeforeYear_eq]
  unfold yearLength
  by_cases h : isLeap year = true
  · rw [if_pos h]
    rw [hleap] at h
    omega
  · rw [if_neg h]
    rw [hleap] at h
    omega

/-- Years begin one after the other. -/
theorem daysBeforeYear_mono {year later : Int} (h : year ≤ later) :
    daysBeforeYear year ≤ daysBeforeYear later := by
  rw [daysBeforeYear_eq, daysBeforeYear_eq]
  omega

/-- A year that is guessed from the mean length of a year is off by one year at most. -/
theorem guess_bounds (days : Int) :
    daysBeforeYear (400 * days / 146097) ≤ days ∧
      days < daysBeforeYear (400 * days / 146097 + 1 + 1 + 1) := by
  rw [daysBeforeYear_eq, daysBeforeYear_eq]
  omega

/-- A day lies in its year. -/
theorem yearOf_bounds (days : Int) :
    daysBeforeYear (yearOf days) ≤ days ∧ days < daysBeforeYear (yearOf days + 1) := by
  obtain ⟨hbegun, hnext⟩ := guess_bounds days
  unfold yearOf
  dsimp only
  split
  case isTrue hearly =>
    rw [Int.add_sub_cancel]
    exact ⟨hbegun, hearly⟩
  case isFalse hlate =>
    split
    case isTrue hbeyond => exact ⟨hbeyond, hnext⟩
    case isFalse hin => exact ⟨Int.not_lt.mp hlate, Int.not_le.mp hin⟩

/-- A year has begun on a day if the day is counted after the beginning of the year. -/
theorem le_yearOf_iff {year days : Int} : year ≤ yearOf days ↔ daysBeforeYear year ≤ days := by
  obtain ⟨hbegun, hnext⟩ := yearOf_bounds days
  constructor
  · intro h
    exact (daysBeforeYear_mono h).trans hbegun
  · intro h
    by_contra hlater
    have hmono : daysBeforeYear (yearOf days + 1) ≤ daysBeforeYear year :=
      daysBeforeYear_mono (by omega)
    omega

/-! ## Months -/

theorem length_monthStarts (leap : Bool) : (monthStarts leap).length = 12 :=
  rfl

/-- The months of a year begin one after the other, and the next year after them. -/
theorem monthStarts_sorted (leap : Bool) :
    (monthStarts leap ++ [yearLength leap]).Pairwise (· < ·) := by
  cases leap <;> decide

/-- In a list that grows, what is not above a bound stands in front of what is. -/
theorem exists_split_of_sorted {starts : List Nat} (h : starts.Pairwise (· < ·)) (bound : Nat) :
    ∃ beyond, starts = starts.filter (· ≤ bound) ++ beyond ∧ ∀ start ∈ beyond, bound < start := by
  induction starts with
  | nil => exact ⟨[], rfl, by simp⟩
  | cons first rest ih =>
    rw [pairwise_cons] at h
    by_cases hfirst : first ≤ bound
    · obtain ⟨beyond, hrest, hbeyond⟩ := ih h.2
      refine ⟨beyond, ?_, hbeyond⟩
      rw [filter_cons_of_pos (by simpa using hfirst), cons_append, ← hrest]
    · have hbeyond : ∀ start ∈ first :: rest, bound < start := by
        rw [forall_mem_cons]
        refine ⟨by omega, fun start hstart => ?_⟩
        have := h.1 start hstart
        omega
      refine ⟨first :: rest, ?_, hbeyond⟩
      rw [filter_eq_nil_iff.mpr fun start hstart => by simpa using hbeyond start hstart, nil_append]

/-- On a day of a year some months have begun, the last of them on that day or before it.  The next
one, or the next year, begins later. -/
theorem exists_month (leap : Bool) {dayOfYear : Nat} (h : dayOfYear < yearLength leap) :
    ∃ before start next later, (monthStarts leap).filter (· ≤ dayOfYear) = before ++ [start] ∧
      monthStarts leap ++ [yearLength leap] = before ++ start :: next :: later ∧
      start ≤ dayOfYear ∧ dayOfYear < next := by
  obtain ⟨beyond, hsplit, hbeyond⟩ := exists_split_of_sorted (monthStarts_sorted leap) dayOfYear
  have hfilter : (monthStarts leap ++ [yearLength leap]).filter (· ≤ dayOfYear) =
      (monthStarts leap).filter (· ≤ dayOfYear) := by
    have hnext : [yearLength leap].filter (· ≤ dayOfYear) = [] := by simpa using h
    rw [filter_append, hnext, append_nil]
  rw [hfilter] at hsplit
  have hfirst : 0 ∈ (monthStarts leap).filter (· ≤ dayOfYear) :=
    mem_filter.mpr ⟨mem_cons_self, by simp⟩
  obtain ⟨before, start, hbegun⟩ := (eq_nil_or_concat _).resolve_left (ne_nil_of_mem hfirst)
  cases beyond with
  | nil =>
    -- Not all of them are over, for the next year has not begun.
    have hlength := congrArg List.length hsplit
    have hle := length_filter_le (· ≤ dayOfYear) (monthStarts leap)
    simp only [length_append, length_singleton, append_nil] at hlength
    omega
  | cons next later =>
    rw [concat_eq_append] at hbegun
    refine ⟨before, start, next, later, hbegun, ?_, ?_, hbeyond next mem_cons_self⟩
    · rw [hsplit, hbegun]
      simp
    · have hmem : start ∈ (monthStarts leap).filter (· ≤ dayOfYear) := by
        rw [hbegun]
        simp
      simpa using (mem_filter.mp hmem).2

/-! ## Days -/

/-- There is a day of that month and that year. -/
structure Date.Exists (d : Date) : Prop where
  one_le_month : 1 ≤ d.month
  month_le : d.month ≤ 12
  one_le_day : 1 ≤ d.dayOfMonth
  day_le : d.dayOfMonth ≤ monthLength (isLeap d.year) d.month

/-- A month begins when it starts, and lasts until the next one does. -/
theorem month_of_starts {leap : Bool} {before later : List Nat} {start next : Nat}
    (h : monthStarts leap ++ [yearLength leap] = before ++ start :: next :: later) :
    before.length + 1 ≤ 12 ∧ (monthStarts leap).getD before.length 0 = start ∧
      monthLength leap (before.length + 1) = next - start := by
  have hlength := congrArg List.length h
  simp only [length_append, length_monthStarts, length_cons, length_nil] at hlength
  have hstart : (monthStarts leap).getD before.length 0 = start := by
    have hat : (monthStarts leap ++ [yearLength leap])[before.length]? = some start := by
      rw [h, getElem?_append_right (Nat.le_refl _), Nat.sub_self, getElem?_cons_zero]
    rw [getElem?_append_left (by rw [length_monthStarts]; omega)] at hat
    rw [getD_eq_getElem?_getD, hat, Option.getD_some]
  have hnext : ((monthStarts leap ++ [yearLength leap]).drop 1).getD before.length 0 = next := by
    rw [h, getD_eq_getElem?_getD, getElem?_drop, getElem?_append_right (by omega),
      Nat.add_sub_cancel, getElem?_cons_succ, getElem?_cons_zero, Option.getD_some]
  refine ⟨by omega, hstart, ?_⟩
  show ((monthStarts leap ++ [yearLength leap]).drop 1).getD before.length 0 -
    (monthStarts leap).getD before.length 0 = next - start
  rw [hnext, hstart]

/-- No month has more than 31 days. -/
theorem monthLength_le (leap : Bool) {month : Nat} (h : month ≤ 12) :
    monthLength leap month ≤ 31 := by
  have hall : ∀ leap, ∀ month ≤ 12, monthLength leap month ≤ 31 := by decide
  exact hall leap month h

/-- The day with a count, by the year in which it lies, the days of that year that are over, and the
months that have begun. -/
theorem exists_ofDays_eq (days : Int) : ∃ (year : Int) (dayOfYear : Nat) (before later : List Nat)
    (start next : Nat), days = daysBeforeYear year + dayOfYear ∧
      monthStarts (isLeap year) ++ [yearLength (isLeap year)] = before ++ start :: next :: later ∧
      start ≤ dayOfYear ∧ dayOfYear < next ∧
      ofDays days = ⟨year, before.length + 1, dayOfYear - start + 1⟩ := by
  obtain ⟨hbegun, hnext⟩ := yearOf_bounds days
  rw [daysBeforeYear_succ] at hnext
  obtain ⟨dayOfYear, hday⟩ := Int.eq_ofNat_of_zero_le (Int.sub_nonneg.mpr hbegun)
  obtain ⟨before, start, next, later, hmonths, hstarts, hstart, hend⟩ :=
    exists_month (isLeap (yearOf days)) (by omega : dayOfYear < yearLength (isLeap (yearOf days)))
  refine ⟨yearOf days, dayOfYear, before, later, start, next, by omega, hstarts, hstart, hend, ?_⟩
  unfold ofDays
  dsimp only
  rw [hday, Int.toNat_natCast, hmonths, length_append, length_singleton, getLastD_concat]

/-- The day with a count is a day that there is. -/
theorem exists_ofDays (days : Int) : (ofDays days).Exists := by
  obtain ⟨year, dayOfYear, before, later, start, next, -, hstarts, hstart, hend, hdate⟩ :=
    exists_ofDays_eq days
  obtain ⟨hmonth, -, hlength⟩ := month_of_starts hstarts
  rw [hdate]
  refine ⟨Nat.le_add_left 1 _, hmonth, Nat.le_add_left 1 _, ?_⟩
  show dayOfYear - start + 1 ≤ monthLength (isLeap year) (before.length + 1)
  omega

/-- The day with a count has that count. -/
theorem toDays_ofDays (days : Int) : (ofDays days).toDays = days := by
  obtain ⟨year, dayOfYear, before, later, start, next, hdays, hstarts, hstart, -, hdate⟩ :=
    exists_ofDays_eq days
  obtain ⟨-, hfirst, -⟩ := month_of_starts hstarts
  rw [hdate]
  show daysBeforeYear year + (monthStarts (isLeap year)).getD before.length 0 +
    ((dayOfYear - start + 1 : Nat) : Int) - 1 = days
  omega

end NodeLedger.Calendar
