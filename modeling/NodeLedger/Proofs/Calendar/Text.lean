import Mathlib.Tactic.IntervalCases
import NodeLedger.Proofs.Calendar.Days
import NodeLedger.Proofs.Numeral.Decimal
import NodeLedger.Proofs.Session.Outcome

/-!
# Days that are written and read back

A day is written as its year, its month and its day with hyphens.  If its year has four digits, the
text is read as that day.

Main results:

- Theorem `Calendar.readDate_text`: a day is read back.
- Theorem `Calendar.InPlainYears.readDate_dayText`: the text of a time is read as the beginning of its
  day.
- Theorem `Calendar.InPlainYears.text_eq_iff`: times with one text lie on one day.
-/

namespace NodeLedger.Calendar

open List NodeLedger.Text NodeLedger.Numeral

/-! ## Parts of a text -/

/-- A decimal digit has its value in whichever script it is read. -/
theorem digitValue?_of_isDigit {c : Char} (h : c.isDigit = true) :
    digitValue? c = some (c.toNat - 48) := by
  have hrange := toNat_of_isDigit h
  unfold digitValue? digitZeros
  rw [find?_cons_of_pos (by simp; omega)]
  rfl

/-- A year of four digits is read. -/
theorem readYear?_append {cs : List Char} (hdigits : ∀ c ∈ cs, c.isDigit = true)
    (hlength : cs.length = 4) (rest : List Char) :
    readYear? (cs ++ rest) = some (Nat.ofDigitChars 10 cs 0, rest) := by
  obtain ⟨a, b, c, d, rfl⟩ := length_eq_four.mp hlength
  simp only [forall_mem_cons] at hdigits
  obtain ⟨ha, hb, hc, hd, -⟩ := hdigits
  have hvalue : ((((a.toNat - 48) * 10 + (b.toNat - 48)) * 10 + (c.toNat - 48)) * 10 +
      (d.toNat - 48)) = Nat.ofDigitChars 10 [a, b, c, d] 0 := by
    simp only [Nat.ofDigitChars_cons, Nat.ofDigitChars_nil, Char.reduceToNat]
    omega
  simp only [cons_append, nil_append, readYear?, digitValue?_of_isDigit, ha, hb, hc, hd,
    Option.bind_eq_bind, Option.bind_some, hvalue]

/-- A month of two digits is read. -/
theorem readMonth?_append {month : Nat} (hone : 1 ≤ month) (hle : month ≤ 12) (rest : List Char) :
    readMonth? ((padded 2 month).toList ++ '-' :: rest) = some (month, rest) := by
  interval_cases month <;> rfl

/-- A day of two digits is read. -/
theorem readDay?_padded {dayOfMonth : Nat} (hone : 1 ≤ dayOfMonth) (hle : dayOfMonth ≤ 31) :
    readDay? (padded 2 dayOfMonth).toList = some (dayOfMonth, []) := by
  interval_cases dayOfMonth <;> rfl

/-! ## Days -/

/-- A day whose year has four digits. -/
structure Date.IsPlain (d : Date) : Prop extends d.Exists where
  year_bounds : 1000 ≤ d.year ∧ d.year ≤ 9999

/-- The parts of the text of such a day are those of the day. -/
theorem readParts?_text {d : Date} (h : d.IsPlain) : readParts? d.text.toList = some (d, []) := by
  obtain ⟨hlow, hhigh⟩ := h.year_bounds
  have hlength : (Nat.toDigits 10 d.year.natAbs).length = 4 := by
    have hfour := Nat.length_toDigits_le_iff (n := d.year.natAbs) (k := 4) (by decide : 1 < 10)
      (by decide)
    have hthree := Nat.length_toDigits_le_iff (n := d.year.natAbs) (k := 3) (by decide : 1 < 10)
      (by decide)
    omega
  have hchars : d.text.toList = Nat.toDigits 10 d.year.natAbs ++
      ('-' :: ((padded 2 d.month).toList ++ '-' :: (padded 2 d.dayOfMonth).toList)) := by
    have hyear : (toString d.year).toList = Nat.toDigits 10 d.year.natAbs := by
      rw [toList_toString, if_pos (by omega), nil_append]
    unfold Date.text
    simp only [String.toList_append, hyear, append_assoc]
    rfl
  have hyear := readYear?_append (fun c => isDigit_of_mem_toDigits) hlength
    ('-' :: ((padded 2 d.month).toList ++ '-' :: (padded 2 d.dayOfMonth).toList))
  rw [Nat.ofDigitChars_ten_toDigits] at hyear
  have hmonth := readMonth?_append h.one_le_month h.month_le (padded 2 d.dayOfMonth).toList
  have hday := readDay?_padded h.one_le_day (h.day_le.trans (monthLength_le _ h.month_le))
  have habs : (d.year.natAbs : Int) = d.year := Int.natAbs_of_nonneg (by omega)
  unfold readParts?
  simp only [hchars, hyear, hmonth, hday, Option.bind_eq_bind, Option.bind_some, habs]

/-- Such a day is read back, as the seconds at its beginning. -/
theorem readDate_text {d : Date} (h : d.IsPlain) :
    readDate d.text = .ok ((d.toDays - epoch) * day) := by
  have hyear : ¬ d.year < 1 := by
    have := h.year_bounds
    omega
  unfold readDate
  rw [readParts?_text h]
  dsimp only
  rw [if_neg (by simp), if_neg hyear, if_neg (Nat.not_lt.mpr h.day_le)]

/-! ## Times -/

/-- The day on which a time lies. -/
def dateAt (timestamp : Int) : Date :=
  ofDays (timestamp / day + epoch)

/-- A time lies in a year of four digits. -/
def InPlainYears (timestamp : Int) : Prop :=
  1000 ≤ (dateAt timestamp).year ∧ (dateAt timestamp).year ≤ 9999

/-- Such a time lies between the beginnings of the years 1000 and 10000. -/
theorem inPlainYears_iff {timestamp : Int} :
    InPlainYears timestamp ↔ -30610224000 ≤ timestamp ∧ timestamp < 253402300800 := by
  have hfirst : daysBeforeYear 1000 = 364877 := by decide
  have hlast : daysBeforeYear 10000 = 3652059 := by decide
  have hbegun : 1000 ≤ (dateAt timestamp).year ↔ 364877 ≤ timestamp / day + epoch := by
    rw [← hfirst]
    exact le_yearOf_iff
  have hover : 10000 ≤ (dateAt timestamp).year ↔ 3652059 ≤ timestamp / day + epoch := by
    rw [← hlast]
    exact le_yearOf_iff
  unfold day epoch at hbegun hover
  unfold InPlainYears
  omega

variable {timestamp other : Int}

theorem InPlainYears.isPlain (h : InPlainYears timestamp) : (dateAt timestamp).IsPlain where
  toExists := exists_ofDays _
  year_bounds := h

/-- The count of the day of a time. -/
theorem toDays_dateAt (timestamp : Int) :
    (dateAt timestamp).toDays = timestamp / day + epoch :=
  toDays_ofDays _

/-- Such a time is told as its day and its second of the day. -/
theorem InPlainYears.ofUnix_eq (h : InPlainYears timestamp) :
    ofUnix timestamp = .ok ⟨dateAt timestamp, (timestamp % day).toNat⟩ := by
  have hbounds := inPlainYears_iff.mp h
  obtain ⟨hlow, hhigh⟩ : 1000 ≤ (dateAt timestamp).year ∧ (dateAt timestamp).year ≤ 9999 := h
  have htime : ¬ (timestamp < -Nat.pow 2 63 ∨ Nat.pow 2 63 ≤ timestamp) := by
    norm_num
    omega
  have hyear : ¬ ((dateAt timestamp).year - 1900 < -Nat.pow 2 31 ∨
      Nat.pow 2 31 ≤ (dateAt timestamp).year - 1900) := by
    norm_num
    omega
  have hwrap : wrapYear (dateAt timestamp).year = (dateAt timestamp).year := by
    apply Int.bmod_eq_of_le
    · norm_num
      omega
    · norm_num
      omega
  have hkept : 1 ≤ wrapYear (dateAt timestamp).year ∧ wrapYear (dateAt timestamp).year ≤ 9999 := by
    omega
  exact (if_neg htime).trans ((if_neg hyear).trans (if_pos hkept))

/-- A time, if it is told, is told with its day. -/
theorem date_of_ofUnix {time : DateTime} (h : ofUnix timestamp = .ok time) :
    time.date = dateAt timestamp := by
  unfold ofUnix at h
  dsimp only at h
  split_ifs at h
  cases h
  rfl

/-- The text of a time, if it has one, is that of its day. -/
theorem text_of_dayText {text : String} (h : dayText timestamp = .ok text) :
    text = (dateAt timestamp).text := by
  obtain ⟨time, htime, htext⟩ := bind_eq_ok_iff.mp h
  cases htext
  rw [date_of_ofUnix htime]

/-- The text of a time is the text of its day. -/
theorem InPlainYears.dayText_eq (h : InPlainYears timestamp) :
    dayText timestamp = .ok (dateAt timestamp).text := by
  unfold dayText
  rw [h.ofUnix_eq]
  rfl

/-- The text of a time is read as the beginning of its day. -/
theorem InPlainYears.readDate_dayText (h : InPlainYears timestamp) :
    readDate (dateAt timestamp).text = .ok (timestamp - timestamp % day) := by
  have hbegin : (timestamp / day + epoch - epoch) * day = timestamp - timestamp % day := by
    unfold day
    omega
  rw [readDate_text h.isPlain, toDays_dateAt, hbegin]

/-- Two times have one text just if they lie on one day. -/
theorem InPlainYears.text_eq_iff (h : InPlainYears timestamp) (hother : InPlainYears other) :
    (dateAt timestamp).text = (dateAt other).text ↔ timestamp / day = other / day := by
  constructor
  · intro htext
    have hread := h.readDate_dayText
    rw [htext, hother.readDate_dayText] at hread
    have hbegin := Except.ok.inj hread
    unfold day at hbegin ⊢
    omega
  · intro hday
    unfold dateAt
    rw [hday]

end NodeLedger.Calendar
