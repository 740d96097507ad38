import Mathlib.Tactic.Linarith
import Mathlib.Tactic.Ring
import NodeLedger.Numeral.Binary64

/-!
# Quotients rounded up

The quotient of two integers is a floating point number, and so it is rounded to the nearest one
before it is rounded up to an integer.  For divisors that are not too large this does no harm: the
quotient, rounded twice, is at most a small integer just if the exact quotient is.

Main results:

- Theorems `roundQuotient_le` and `le_roundQuotient`: a rounded quotient stays on its side of every
  integer.
- Theorem `Binary64.exponentOf_le`: the exponent of a quotient is not too large for it.
- Theorem `Binary64.ceiling?_ofQuotient_le_iff`: a quotient rounded up against a small integer.
- Theorem `Binary64.exists_ceiling?_ofQuotient`: quotients that can be rounded up.
-/

namespace NodeLedger.Numeral

/-! ## Rounding to the nearest integer -/

theorem roundQuotient_le {num den bound : Nat} (hden : 0 < den) (h : num ≤ bound * den) :
    roundQuotient num den ≤ bound := by
  have hfloor : num / den ≤ bound := Nat.div_le_of_le_mul (by rw [Nat.mul_comm]; exact h)
  have hsplit : den * (num / den) + num % den = num := Nat.div_add_mod num den
  -- The quotient is rounded up only if it leaves a remainder, and then it is below the bound.
  have hbelow : 0 < num % den → num / den < bound := by
    intro hrest
    refine lt_of_le_of_ne hfloor fun heq => ?_
    rw [heq, Nat.mul_comm] at hsplit
    omega
  unfold roundQuotient
  dsimp only
  split_ifs <;> omega

theorem le_roundQuotient {num den bound : Nat} (hden : 0 < den) (h : bound * den ≤ num) :
    bound ≤ roundQuotient num den := by
  have hfloor : bound ≤ num / den := (Nat.le_div_iff_mul_le hden).mpr h
  unfold roundQuotient
  dsimp only
  split_ifs <;> omega

namespace Binary64

/-! ## Exponents -/

theorem exponentOf_le (num den : Nat) :
    exponentOf num den ≤ max ((num.log2 : Int) - den.log2 - 52) minExponent := by
  unfold exponentOf
  dsimp only
  generalize (num.log2 : Int) - den.log2 - 52 = guess
  split_ifs <;> omega

/-- A quotient below `2 ^ bits` has an exponent below the one of `2 ^ bits`. -/
theorem exponentOf_le_of_lt {num den bits : Nat} (hnum : num ≠ 0) (h : num < 2 ^ bits * den) :
    exponentOf num den ≤ (bits : Int) - 52 := by
  have hlog : num.log2 < bits + (den.log2 + 1) := by
    rw [Nat.log2_lt hnum, Nat.pow_add]
    calc
      num < 2 ^ bits * den := h
      _ ≤ 2 ^ bits * 2 ^ (den.log2 + 1) := Nat.mul_le_mul_left _ (Nat.le_of_lt Nat.lt_log2_self)
  have hle := exponentOf_le num den
  simp only [minExponent] at hle
  omega

/-! ## Numbers against an integer -/

/-- The product of a significand and a power of two is at most an integer. -/
def AtMost (m : Nat) (e : Int) (bound : Nat) : Prop :=
  if e < 0 then m ≤ bound * 2 ^ e.natAbs else m * 2 ^ e.natAbs ≤ bound

/-- A finite number is rounded up to at most an integer just if it is at most that integer. -/
theorem ceiling?_finite_le_iff (m : Nat) (e : Int) (bound : Nat) :
    (∃ n, (finite false m e).ceiling? = some n ∧ n ≤ bound) ↔ AtMost m e bound := by
  have hpower : (0 : Int) < ((2 ^ e.natAbs : Nat) : Int) := by positivity
  unfold ceiling? AtMost
  simp only [Bool.false_eq_true, if_false, Option.some.injEq, exists_eq_left', Nat.pow_eq]
  split_ifs
  · have hfloor : -((bound : Int)) ≤ -(m : Int) / ((2 ^ e.natAbs : Nat) : Int) ↔
        -((bound : Int)) * ((2 ^ e.natAbs : Nat) : Int) ≤ -(m : Int) :=
      Int.le_ediv_iff_mul_le hpower
    rw [neg_le, hfloor, neg_mul, neg_le_neg_iff, ← Int.ofNat_le]
    push_cast
    rfl
  · rw [← Int.ofNat_le]
    push_cast
    rfl

/-- A significand that is rounded up to the next power of two is halved. -/
theorem atMost_carry (e : Int) (bound : Nat) :
    AtMost (2 ^ 52) (e + 1) bound ↔ AtMost (2 ^ 53) e bound := by
  unfold AtMost
  by_cases hneg : e + 1 < 0
  · obtain ⟨a, ha, ha'⟩ : ∃ a, e.natAbs = a + 1 ∧ (e + 1).natAbs = a :=
      ⟨(e + 1).natAbs, by omega, rfl⟩
    have hdouble : bound * 2 ^ (a + 1) = 2 * (bound * 2 ^ a) := by ring
    rw [if_pos hneg, if_pos (by omega), ha, ha', hdouble]
    omega
  · by_cases hlast : e < 0
    · obtain rfl : e = -1 := by omega
      simp
      omega
    · obtain ⟨a, ha, ha'⟩ : ∃ a, e.natAbs = a ∧ (e + 1).natAbs = a + 1 :=
        ⟨e.natAbs, rfl, by omega⟩
      have hdouble : 2 ^ 52 * 2 ^ (a + 1) = 2 ^ 53 * 2 ^ a := by ring
      rw [if_neg hneg, if_neg hlast, ha, ha', hdouble]

/-! ## Quotients against an integer -/

/-- What is above an integer is above it by one when both are scaled by the same power of two, if the
power is not too small for quotients nearby. -/
theorem next_mul_le_of_lt {num den bound shift : Nat} (hsmall : den ≤ 2 ^ 40)
    (hshift : num < (bound + 1) * den → 2 ^ 40 ≤ 2 ^ shift) (h : bound * den < num) :
    (bound * 2 ^ shift + 1) * den ≤ num * 2 ^ shift := by
  by_cases hfar : (bound + 1) * den ≤ num
  · have hpower := Nat.one_le_two_pow (n := shift)
    calc
      (bound * 2 ^ shift + 1) * den ≤ ((bound + 1) * 2 ^ shift) * den :=
        Nat.mul_le_mul_right den (by linarith)
      _ = (bound + 1) * den * 2 ^ shift := by ring
      _ ≤ num * 2 ^ shift := Nat.mul_le_mul_right _ hfar
  · have hden : den ≤ 2 ^ shift := hsmall.trans (hshift (by omega))
    calc
      (bound * 2 ^ shift + 1) * den = bound * den * 2 ^ shift + den := by ring
      _ ≤ bound * den * 2 ^ shift + 2 ^ shift := by omega
      _ = (bound * den + 1) * 2 ^ shift := by ring
      _ ≤ num * 2 ^ shift := Nat.mul_le_mul_right _ h

/-- A quotient with an exponent that is not negative has a large significand. -/
theorem le_significand {num den shift : Nat} (hnum : num ≠ 0) (hden : den ≠ 0)
    (hlog : 52 + den.log2 + shift ≤ num.log2) :
    2 ^ 51 ≤ roundQuotient num (den * 2 ^ shift) := by
  have hpos : 0 < den := Nat.pos_of_ne_zero hden
  refine le_roundQuotient (by positivity) ?_
  calc
    2 ^ 51 * (den * 2 ^ shift) ≤ 2 ^ 51 * (2 ^ (den.log2 + 1) * 2 ^ shift) :=
      Nat.mul_le_mul_left _ (Nat.mul_le_mul_right _ (Nat.le_of_lt Nat.lt_log2_self))
    _ = 2 ^ (52 + den.log2 + shift) := by ring
    _ ≤ 2 ^ num.log2 := Nat.pow_le_pow_right (by omega) hlog
    _ ≤ num := Nat.log2_self_le hnum

section SmallBound

variable {num den bound : Nat} (hnum : num ≠ 0) (hbound : bound < 2 ^ 10)

include hnum hbound

/-- Quotients that are not far above a small integer have an exponent that is negative enough for
the distance of two of them. -/
theorem exponentOf_le_of_near (h : num < (bound + 1) * den) : exponentOf num den ≤ -42 := by
  have hpower : num < 2 ^ 10 * den := lt_of_lt_of_le h (Nat.mul_le_mul_right den (by omega))
  have := exponentOf_le_of_lt hnum hpower
  omega

/-- The significand of a quotient of two naturals for its exponent keeps the quotient on its side of
every small integer. -/
theorem atMost_scaled_iff (hden : den ≠ 0) (hsmall : den ≤ 2 ^ 40) :
    AtMost (scaled num den (exponentOf num den)) (exponentOf num den) bound ↔
      num ≤ bound * den := by
  have hpos : 0 < den := Nat.pos_of_ne_zero hden
  have hexponent : num < (bound + 1) * den → exponentOf num den ≤ -42 :=
    exponentOf_le_of_near hnum hbound
  have hupper := exponentOf_le num den
  unfold AtMost scaled
  generalize exponentOf num den = e at hexponent hupper ⊢
  by_cases hneg : e < 0
  · simp only [if_pos hneg, Nat.pow_eq]
    constructor
    · intro hle
      by_contra hgt
      have hshift : num < (bound + 1) * den → 2 ^ 40 ≤ 2 ^ e.natAbs := by
        intro hnear
        have := hexponent hnear
        exact Nat.pow_le_pow_right (by omega) (by omega)
      have := le_roundQuotient hpos (next_mul_le_of_lt hsmall hshift (by omega))
      omega
    · intro hle
      refine roundQuotient_le hpos ?_
      calc
        num * 2 ^ e.natAbs ≤ bound * den * 2 ^ e.natAbs := Nat.mul_le_mul_right _ hle
        _ = bound * 2 ^ e.natAbs * den := by ring
  · simp only [if_neg hneg, Nat.pow_eq]
    -- With such an exponent the quotient is far above the integer, and so is its significand.
    have hlarge : 2 ^ 51 ≤ roundQuotient num (den * 2 ^ e.natAbs) := by
      refine le_significand hnum hden ?_
      simp only [minExponent] at hupper
      omega
    have hpower := Nat.one_le_two_pow (n := e.natAbs)
    constructor
    · intro hle
      have := Nat.le_mul_of_pos_right (roundQuotient num (den * 2 ^ e.natAbs)) hpower
      omega
    · intro hle
      have := hexponent (by linarith)
      omega

/-- The quotient of two naturals, as a floating point number, is rounded up to at most a small
integer just if the exact quotient is at most that integer. -/
theorem ceiling?_ofQuotient_le_iff (hden : den ≠ 0) (hsmall : den ≤ 2 ^ 40) :
    (∃ n, (ofQuotient false num den).ceiling? = some n ∧ n ≤ bound) ↔ num ≤ bound * den := by
  have hscaled := atMost_scaled_iff hnum hbound hden hsmall
  -- A quotient that is too large for any number is far above the integer.
  have hfar : maxExponent < exponentOf num den + 1 → ¬ num ≤ bound * den := by
    intro hlarge hle
    have hnear : num < (bound + 1) * den := by linarith [Nat.pos_of_ne_zero hden]
    have := exponentOf_le_of_near hnum hbound hnear
    simp only [maxExponent] at hlarge
    omega
  unfold ofQuotient
  rw [if_neg hnum]
  dsimp only
  generalize exponentOf num den = e at hscaled hfar ⊢
  by_cases hcarry : scaled num den e = Nat.pow 2 53
  · rw [if_pos hcarry]
    rw [hcarry, Nat.pow_eq, ← atMost_carry] at hscaled
    by_cases hinfinite : maxExponent < e + 1
    · simp [ceiling?, hinfinite, hfar hinfinite]
    · rw [if_neg hinfinite, ceiling?_finite_le_iff]
      exact hscaled
  · rw [if_neg hcarry]
    by_cases hinfinite : maxExponent < e
    · simp [ceiling?, hinfinite, hfar (by omega)]
    · rw [if_neg hinfinite, ceiling?_finite_le_iff]
      exact hscaled

end SmallBound

/-- A quotient of numbers that are not too large can be rounded up. -/
theorem exists_ceiling?_ofQuotient {num : Nat} (h : num < 2 ^ 53) (negative : Bool) (den : Nat) :
    ∃ n, (ofQuotient negative num den).ceiling? = some n := by
  by_cases hnum : num = 0
  · rw [ofQuotient, if_pos hnum]
    exact ⟨_, rfl⟩
  · have hlog : num.log2 < 53 := (Nat.log2_lt hnum).mpr h
    have hexponent := exponentOf_le num den
    unfold ofQuotient
    rw [if_neg hnum]
    simp only [minExponent, maxExponent] at hexponent ⊢
    split_ifs
    · omega
    · exact ⟨_, rfl⟩
    · omega
    · exact ⟨_, rfl⟩

end Binary64

end NodeLedger.Numeral
