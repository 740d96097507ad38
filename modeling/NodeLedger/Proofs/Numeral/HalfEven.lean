import Mathlib.Data.Rat.Floor
import Mathlib.Tactic.Linarith
import NodeLedger.Numeral.Binary64

/-!
# Rounding half to even

A rational number is rounded to the nearest integer, and to the even one of two that are equally
near.  This is how quotients of naturals are rounded.

Main results:

- Definition `halfEven`: the integer to which a number is rounded.
- Theorem `abs_halfEven_sub_le`: it is not further than one half from the number.
- Theorem `halfEven_mono`: the order of numbers is kept.
- Theorem `roundQuotient_eq_halfEven`: so the quotient of two naturals is rounded.
-/

namespace NodeLedger.Numeral

/-- The integer nearest to a number, the even one of two that are equally near. -/
def halfEven (x : ℚ) : ℤ :=
  if Int.fract x < 1 / 2 then ⌊x⌋
  else if 1 / 2 < Int.fract x then ⌊x⌋ + 1
  else if Even ⌊x⌋ then ⌊x⌋ else ⌊x⌋ + 1

@[simp] theorem halfEven_intCast (n : ℤ) : halfEven n = n := by
  simp [halfEven]

@[simp] theorem halfEven_zero : halfEven 0 = 0 := by
  simpa using halfEven_intCast 0

/-- A number is rounded by one half at most. -/
theorem abs_halfEven_sub_le (x : ℚ) : |(halfEven x : ℚ) - x| ≤ 1 / 2 := by
  have hsplit := Int.floor_add_fract x
  have hnonneg := Int.fract_nonneg x
  have hlt := Int.fract_lt_one x
  rw [abs_le]
  unfold halfEven
  split_ifs with hbelow habove
  · constructor <;> linarith
  · push_cast
    constructor <;> linarith
  · constructor <;> linarith
  · push_cast
    constructor <;> linarith

/-- Numbers are in the same order after rounding: two of them that are rounded by one half each, in
opposite directions, are one number. -/
theorem halfEven_mono {x y : ℚ} (hle : x ≤ y) : halfEven x ≤ halfEven y := by
  by_contra hnot
  have hstep : (halfEven y : ℚ) + 1 ≤ halfEven x := by exact_mod_cast not_le.mp hnot
  have hx := abs_le.mp (abs_halfEven_sub_le x)
  have hy := abs_le.mp (abs_halfEven_sub_le y)
  have hsame : x = y := by linarith
  exact hnot (by rw [hsame])

theorem halfEven_of_lt {x : ℚ} (h : Int.fract x < 1 / 2) : halfEven x = ⌊x⌋ :=
  if_pos h

theorem halfEven_of_gt {x : ℚ} (h : 1 / 2 < Int.fract x) : halfEven x = ⌊x⌋ + 1 := by
  rw [halfEven, if_neg h.not_gt, if_pos h]

theorem halfEven_of_eq {x : ℚ} (h : Int.fract x = 1 / 2) :
    halfEven x = if Even ⌊x⌋ then ⌊x⌋ else ⌊x⌋ + 1 := by
  rw [halfEven, if_neg h.not_lt, if_neg h.not_gt]

/-- A number and its opposite are rounded alike. -/
theorem halfEven_neg (x : ℚ) : halfEven (-x) = -halfEven x := by
  by_cases hwhole : Int.fract x = 0
  · obtain ⟨n, rfl⟩ : ∃ n : ℤ, (n : ℚ) = x := ⟨⌊x⌋, by linarith [Int.floor_add_fract x]⟩
    rw [← Int.cast_neg, halfEven_intCast, halfEven_intCast]
  · have hfract := Int.fract_neg hwhole
    have hfloor : ⌊-x⌋ = -⌊x⌋ - 1 := by
      have hnegated := Int.floor_add_fract (-x)
      have hsplit := Int.floor_add_fract x
      have hcast : (⌊-x⌋ : ℚ) = -⌊x⌋ - 1 := by linarith
      exact_mod_cast hcast
    -- What is near its lower neighbour has an opposite that is near its upper one.
    rcases lt_trichotomy (Int.fract x) (1 / 2) with hbelow | hhalf | habove
    · rw [halfEven_of_lt hbelow, halfEven_of_gt (by rw [hfract]; linarith), hfloor]
      omega
    · rw [halfEven_of_eq hhalf, halfEven_of_eq (by rw [hfract]; linarith), hfloor]
      simp only [Int.even_sub_one, even_neg]
      split_ifs <;> omega
    · rw [halfEven_of_gt habove, halfEven_of_lt (by rw [hfract]; linarith), hfloor]
      omega

/-- The quotient of two naturals is rounded half to even. -/
theorem roundQuotient_eq_halfEven {num den : ℕ} (hden : 0 < den) :
    (roundQuotient num den : ℤ) = halfEven ((num : ℚ) / den) := by
  have hpos : (0 : ℚ) < den := by exact_mod_cast hden
  have hfloor : ⌊(num : ℚ) / den⌋ = ((num / den : ℕ) : ℤ) := by
    rw [Rat.floor_natCast_div_natCast]
    rfl
  have hfract : Int.fract ((num : ℚ) / den) = ((num % den : ℕ) : ℚ) / den :=
    Int.fract_div_natCast_eq_div_natCast_mod
  have hbelow : ((num % den : ℕ) : ℚ) / den < 1 / 2 ↔ 2 * (num % den) < den := by
    rw [div_lt_div_iff₀ hpos two_pos, one_mul, mul_comm]
    exact_mod_cast Iff.rfl
  have habove : 1 / 2 < ((num % den : ℕ) : ℚ) / den ↔ den < 2 * (num % den) := by
    rw [div_lt_div_iff₀ two_pos hpos, one_mul, mul_comm]
    exact_mod_cast Iff.rfl
  have heven : Even (((num / den : ℕ)) : ℤ) ↔ num / den % 2 = 0 := by
    rw [Int.even_coe_nat, Nat.even_iff]
  unfold roundQuotient halfEven
  simp only [hfloor, hfract, hbelow, habove, heven]
  split_ifs <;> simp

end NodeLedger.Numeral
