import Mathlib.Algebra.Order.Field.Power
import Mathlib.Data.Int.Log
import NodeLedger.Proofs.Decimal.Exact
import NodeLedger.Proofs.Numeral.HalfEven

/-!
# Decimals that are rounded

The value of a finite decimal is a rational number.  A rational number is rounded to so many
significant digits by counting it in units of the last of them, and rounding that count half to
even.  What the calculation does with digits, exponents and carries is to round values in this way.

Main results:

- Definition `Decimal.value?`: the value of a decimal.
- Definition `Decimal.roundedTo`: a number rounded to so many significant digits.
- Theorem `Decimal.roundedTo_mono`: the order of numbers is kept, also where the number of digits
  before the point changes.
- Theorem `Decimal.roundedTo_eq_self`: a number of few digits is kept.
- Theorem `Decimal.exists_rounded`: a calculated decimal has the value rounded to 28 digits.
- Theorem `Decimal.exists_div_ten_pow`: a decimal of 28 significant digits is divided by a power of
  ten exactly.
-/

namespace NodeLedger.Decimal

open NodeLedger.Numeral

/-! ## Values -/

/-- The factor that a sign stands for. -/
def signFactor (negative : Bool) : ℚ :=
  if negative then -1 else 1

/-- The value of a decimal, if it is finite. -/
def value? : Decimal → Option ℚ
  | .finite negative c e => some (signFactor negative * (c * 10 ^ e))
  | _ => none

theorem signFactor_bne (s t : Bool) : signFactor (s != t) = signFactor s * signFactor t := by
  cases s <;> cases t <;> norm_num [signFactor]

/-- An integer is its sign and its size. -/
theorem signFactor_mul_natAbs (n : ℤ) : signFactor (decide (n < 0)) * n.natAbs = n := by
  have habs : ((n.natAbs : ℤ) : ℚ) = |(n : ℚ)| := by rw [Int.natCast_natAbs, Int.cast_abs]
  rw [← Int.cast_natCast, habs, signFactor]
  by_cases hneg : n < 0
  · have hcast : (n : ℚ) < 0 := by exact_mod_cast hneg
    rw [if_pos (decide_eq_true hneg), abs_of_neg hcast]
    ring
  · have hcast : (0 : ℚ) ≤ n := by exact_mod_cast not_lt.mp hneg
    rw [if_neg (by simpa using hneg), abs_of_nonneg hcast, one_mul]

/-! ## Digits and powers of ten -/

section Digits

variable {c : ℕ} {e k : ℤ}

theorem ten_zpow_pos (k : ℤ) : (0 : ℚ) < 10 ^ k :=
  zpow_pos (by norm_num) k

theorem ten_zpow_add (j k : ℤ) : (10 : ℚ) ^ (j + k) = 10 ^ j * 10 ^ k :=
  zpow_add₀ (by norm_num) j k

/-- A number is below the power of ten that has one digit more. -/
theorem mul_zpow_lt (c : ℕ) (e : ℤ) : (c : ℚ) * 10 ^ e < 10 ^ (e + digitCount c) := by
  rw [add_comm e, ten_zpow_add, zpow_natCast]
  exact mul_lt_mul_of_pos_right (by exact_mod_cast lt_pow_digitCount c) (ten_zpow_pos e)

/-- It is not below the power of ten that has as many. -/
theorem zpow_le_mul (hc : c ≠ 0) (e : ℤ) : (10 : ℚ) ^ (e + digitCount c - 1) ≤ c * 10 ^ e := by
  have hdigits : 10 ^ (digitCount c - 1) ≤ c := by
    by_contra hfew
    have hlt := not_le.mp hfew
    rcases Nat.eq_zero_or_pos (digitCount c - 1) with hone | hmore
    · rw [hone, pow_zero] at hlt
      omega
    · have hle := (digitCount_le_iff hmore).mpr hlt
      omega
  have hpos := digitCount_pos c
  have hexponent : e + digitCount c - 1 = (digitCount c - 1 : ℕ) + e := by omega
  rw [hexponent, ten_zpow_add, zpow_natCast]
  exact mul_le_mul_of_nonneg_right (by exact_mod_cast hdigits) (ten_zpow_pos e).le

/-- Digits that make up a number below a power of ten are no more than that power allows. -/
theorem add_digitCount_le (hc : c ≠ 0) (h : (c : ℚ) * 10 ^ e < 10 ^ k) : e + digitCount c ≤ k := by
  have hlt := (zpow_lt_zpow_iff_right₀ (by norm_num)).mp ((zpow_le_mul hc e).trans_lt h)
  omega

/-- The number of digits tells the order of magnitude. -/
theorem log_mul_zpow (hc : c ≠ 0) (e : ℤ) :
    Int.log 10 |(c : ℚ) * 10 ^ e| = e + digitCount c - 1 := by
  have hpos : (0 : ℚ) < c * 10 ^ e :=
    mul_pos (by exact_mod_cast Nat.pos_of_ne_zero hc) (ten_zpow_pos e)
  rw [abs_of_pos hpos]
  refine le_antisymm ?_ ?_
  · have hbelow := (Int.lt_zpow_iff_log_lt (b := 10) (by norm_num) hpos).mp (mul_zpow_lt c e)
    omega
  · exact (Int.zpow_le_iff_le_log (b := 10) (by norm_num) hpos).mp (zpow_le_mul hc e)

end Digits

/-! ## Rounding to significant digits -/

/-- The place of the last of so many significant digits of a number, as a power of ten. -/
def lastPlace (digits : ℕ) (x : ℚ) : ℤ :=
  Int.log 10 |x| + 1 - digits

/-- A number rounded half to even to so many significant digits. -/
def roundedTo (digits : ℕ) (x : ℚ) : ℚ :=
  halfEven (x / 10 ^ lastPlace digits x) * 10 ^ lastPlace digits x

section RoundedTo

variable {digits : ℕ} {x y : ℚ}

@[simp] theorem roundedTo_zero (digits : ℕ) : roundedTo digits 0 = 0 := by
  simp [roundedTo]

theorem roundedTo_neg (digits : ℕ) (x : ℚ) : roundedTo digits (-x) = -roundedTo digits x := by
  unfold roundedTo lastPlace
  rw [abs_neg, neg_div, halfEven_neg]
  push_cast
  ring

/-- A sign is not touched by rounding. -/
theorem roundedTo_signFactor_mul (digits : ℕ) (negative : Bool) (x : ℚ) :
    roundedTo digits (signFactor negative * x) = signFactor negative * roundedTo digits x := by
  cases negative
  · simp [signFactor]
  · simp [signFactor, roundedTo_neg]

/-- A number that is a whole number of units is not changed, if so many digits tell that number. -/
theorem roundedTo_eq_self {c : ℕ} {e : ℤ} (h : c < 10 ^ digits) :
    roundedTo digits (c * 10 ^ e) = c * 10 ^ e := by
  by_cases hc : c = 0
  · simp [hc]
  · have hbelow : (c : ℚ) * 10 ^ e < 10 ^ (digits + e) := by
      rw [ten_zpow_add, zpow_natCast]
      exact mul_lt_mul_of_pos_right (by exact_mod_cast h) (ten_zpow_pos e)
    have hplace : lastPlace digits (c * 10 ^ e) ≤ e := by
      have := add_digitCount_le hc hbelow
      rw [lastPlace, log_mul_zpow hc]
      omega
    -- The unit of the number is a whole number of units of the last place.
    obtain ⟨k, hk⟩ := Int.le.dest hplace
    have hunits : (c : ℚ) * 10 ^ e = ((c * 10 ^ k : ℤ) : ℚ) * 10 ^ lastPlace digits (c * 10 ^ e) := by
      push_cast
      rw [mul_assoc, ← zpow_natCast, ← ten_zpow_add, add_comm (k : ℤ), hk]
    have hcount : (c : ℚ) * 10 ^ e / 10 ^ lastPlace digits (c * 10 ^ e) = (c * 10 ^ k : ℤ) :=
      (div_eq_iff (ten_zpow_pos _).ne').mpr hunits
    rw [roundedTo, hcount, halfEven_intCast, ← hunits]

theorem roundedTo_nonneg (digits : ℕ) (h : 0 ≤ x) : 0 ≤ roundedTo digits x := by
  have hcount : (0 : ℤ) ≤ halfEven (x / 10 ^ lastPlace digits x) := by
    rw [← halfEven_zero]
    exact halfEven_mono (div_nonneg h (ten_zpow_pos _).le)
  exact mul_nonneg (by exact_mod_cast hcount) (ten_zpow_pos _).le

/-- A number is rounded up to the next power of ten at most. -/
theorem roundedTo_le_zpow (hx : 0 < x) :
    roundedTo digits x ≤ 10 ^ (Int.log 10 x + 1) := by
  have hlt : x < 10 ^ (Int.log 10 x + 1) := Int.lt_zpow_succ_log_self (by norm_num) x
  have hplace : Int.log 10 x + 1 = digits + lastPlace digits x := by
    rw [lastPlace, abs_of_pos hx]
    ring
  have hcount : halfEven (x / 10 ^ lastPlace digits x) ≤ (10 ^ digits : ℤ) := by
    rw [← halfEven_intCast (10 ^ digits)]
    refine halfEven_mono ((div_le_iff₀ (ten_zpow_pos _)).mpr ?_)
    push_cast
    rw [← zpow_natCast, ← ten_zpow_add, ← hplace]
    exact hlt.le
  rw [roundedTo, hplace, ten_zpow_add, zpow_natCast]
  exact mul_le_mul_of_nonneg_right (by exact_mod_cast hcount) (ten_zpow_pos _).le

/-- And it is not rounded down below the power of ten in front of it. -/
theorem zpow_le_roundedTo (hdigits : 0 < digits) (hx : 0 < x) :
    10 ^ Int.log 10 x ≤ roundedTo digits x := by
  have hle : 10 ^ Int.log 10 x ≤ x := Int.zpow_log_le_self (by norm_num) hx
  have hplace : Int.log 10 x = (digits - 1 : ℕ) + lastPlace digits x := by
    rw [lastPlace, abs_of_pos hx]
    omega
  have hcount : (10 ^ (digits - 1) : ℤ) ≤ halfEven (x / 10 ^ lastPlace digits x) := by
    rw [← halfEven_intCast (10 ^ (digits - 1))]
    refine halfEven_mono ((le_div_iff₀ (ten_zpow_pos _)).mpr ?_)
    push_cast
    rw [← zpow_natCast, ← ten_zpow_add, ← hplace]
    exact hle
  rw [roundedTo, hplace, ten_zpow_add, zpow_natCast]
  exact mul_le_mul_of_nonneg_right (by exact_mod_cast hcount) (ten_zpow_pos _).le

/-- Positive numbers keep their order: those of one magnitude are counted in the same unit, and a
power of ten stands between those of different magnitudes. -/
theorem roundedTo_le_of_pos (hdigits : 0 < digits) (hx : 0 < x) (h : x ≤ y) :
    roundedTo digits x ≤ roundedTo digits y := by
  have hy : 0 < y := hx.trans_le h
  rcases (Int.log_mono_right (b := 10) hx h).eq_or_lt with hsame | hless
  · have hplace : lastPlace digits x = lastPlace digits y := by
      rw [lastPlace, lastPlace, abs_of_pos hx, abs_of_pos hy, hsame]
    unfold roundedTo
    rw [hplace]
    have hcount : halfEven (x / 10 ^ lastPlace digits y) ≤ halfEven (y / 10 ^ lastPlace digits y) :=
      halfEven_mono (div_le_div_of_nonneg_right h (ten_zpow_pos _).le)
    exact mul_le_mul_of_nonneg_right (by exact_mod_cast hcount) (ten_zpow_pos _).le
  · calc
      roundedTo digits x ≤ 10 ^ (Int.log 10 x + 1) := roundedTo_le_zpow hx
      _ ≤ 10 ^ Int.log 10 y := zpow_le_zpow_right₀ (by norm_num) hless
      _ ≤ roundedTo digits y := zpow_le_roundedTo hdigits hy

/-- Numbers keep their order when they are rounded to significant digits. -/
theorem roundedTo_mono (hdigits : 0 < digits) : Monotone (roundedTo digits) := by
  intro x y h
  rcases lt_or_ge 0 x with hx | hx
  · exact roundedTo_le_of_pos hdigits hx h
  · rcases lt_or_ge y 0 with hy | hy
    · have hneg := roundedTo_le_of_pos hdigits (neg_pos.mpr hy) (neg_le_neg h)
      rwa [roundedTo_neg, roundedTo_neg, neg_le_neg_iff] at hneg
    · have hbelow := roundedTo_nonneg digits (neg_nonneg.mpr hx)
      rw [roundedTo_neg, neg_nonneg] at hbelow
      exact hbelow.trans (roundedTo_nonneg digits hy)

end RoundedTo

/-! ## Calculated decimals -/

/-- The digits that are kept are the count in units of the last place, rounded. -/
theorem dropDigits_mul_zpow {num : ℕ} (hnum : num ≠ 0) (e : ℤ) :
    (dropDigits num 1 (digitCount num - precision) : ℚ) *
        10 ^ (e + (digitCount num - precision : ℕ)) = roundedTo precision (num * 10 ^ e) := by
  have hrounded : dropDigits num 1 (digitCount num - precision) =
      roundQuotient num (10 ^ (digitCount num - precision)) := by
    unfold dropDigits
    rw [Nat.div_one, if_neg (by omega), Nat.pow_eq, one_mul]
  rw [hrounded]
  rcases Nat.eq_zero_or_pos (digitCount num - precision) with hfew | hmany
  · have hlt : num < 10 ^ precision := (digitCount_le_iff (by decide)).mp (by omega)
    rw [hfew, pow_zero, roundQuotient_of_dvd one_pos (one_dvd num), Nat.div_one,
      roundedTo_eq_self hlt, Nat.cast_zero, add_zero]
  · generalize hdrop : digitCount num - precision = drop at hmany ⊢
    have hplace : lastPlace precision (num * 10 ^ e) = e + drop := by
      rw [lastPlace, log_mul_zpow hnum]
      omega
    have hcount : (num : ℚ) * 10 ^ e / 10 ^ (e + (drop : ℤ)) = num / (10 ^ drop : ℕ) := by
      rw [ten_zpow_add, zpow_natCast, Nat.cast_pow, Nat.cast_ofNat, mul_comm ((10 : ℚ) ^ e)]
      exact mul_div_mul_right _ _ (ten_zpow_pos e).ne'
    rw [roundedTo, hplace, hcount, ← roundQuotient_eq_halfEven (ten_pow_pos drop), Int.cast_natCast]

/-- Rounding up to the power of ten that has one digit too many does not change the value. -/
theorem exists_carry (c : ℕ) (e : ℤ) :
    ∃ c' e', (if c = Nat.pow 10 precision then (Nat.pow 10 (precision - 1), e + 1) else (c, e)) =
        (c', e') ∧ (c' : ℚ) * 10 ^ e' = c * 10 ^ e ∧ e ≤ e' := by
  by_cases hcarry : c = Nat.pow 10 precision
  · refine ⟨_, _, if_pos hcarry, ?_, by omega⟩
    rw [hcarry, ten_zpow_add, zpow_one, Nat.pow_eq, Nat.pow_eq]
    push_cast
    rw [mul_comm ((10 : ℚ) ^ e), ← mul_assoc, ← pow_succ, show precision - 1 + 1 = precision from rfl]
  · exact ⟨_, _, if_neg hcarry, rfl, le_rfl⟩

/-- A calculated decimal has the value that is calculated, rounded to 28 digits. -/
theorem exists_rounded (negative : Bool) {num : ℕ} {e : ℤ} (hlow : minExponent ≤ e)
    (hhigh : num ≠ 0 → e + digitCount num ≤ maxAdjusted) :
    ∃ c e', rounded negative num 1 e = .ok (.finite negative c e') ∧
      (c : ℚ) * 10 ^ e' = roundedTo precision (num * 10 ^ e) ∧ minExponent ≤ e' := by
  unfold rounded
  by_cases hzero : num = 0
  · subst hzero
    refine ⟨0, min (max e minExponent) maxAdjusted, rfl, by simp, ?_⟩
    simp only [minExponent, maxAdjusted]
    omega
  · have hpos : (0 : ℚ) < num * 10 ^ e :=
      mul_pos (by exact_mod_cast Nat.pos_of_ne_zero hzero) (ten_zpow_pos e)
    have hdrop : max (digitCount num - precision) (minExponent - e).toNat =
        digitCount num - precision := by omega
    rw [if_neg hzero]
    dsimp only
    rw [Nat.div_one, hdrop]
    obtain ⟨c, e', hcarry, hvalue, hexponent⟩ :=
      exists_carry (dropDigits num 1 (digitCount num - precision))
        (e + (digitCount num - precision : ℕ))
    rw [dropDigits_mul_zpow hzero] at hvalue
    have hc : c ≠ 0 := by
      rintro rfl
      have hkept : 10 ^ Int.log 10 ((num : ℚ) * 10 ^ e) ≤ roundedTo precision (num * 10 ^ e) :=
        zpow_le_roundedTo (by decide) hpos
      rw [← hvalue, Nat.cast_zero, zero_mul] at hkept
      exact absurd hkept (ten_zpow_pos _).not_ge
    have htop : e' + digitCount c - 1 ≤ e + digitCount num := by
      have hlog := log_mul_zpow hzero e
      rw [abs_of_pos hpos] at hlog
      have hle : (10 : ℚ) ^ (e' + digitCount c - 1) ≤ 10 ^ (Int.log 10 ((num : ℚ) * 10 ^ e) + 1) := by
        calc
          (10 : ℚ) ^ (e' + digitCount c - 1) ≤ c * 10 ^ e' := zpow_le_mul hc e'
          _ = roundedTo precision (num * 10 ^ e) := hvalue
          _ ≤ _ := roundedTo_le_zpow hpos
      have := (zpow_le_zpow_iff_right₀ (by norm_num)).mp hle
      omega
    have hrange := hhigh hzero
    rw [hcarry]
    dsimp only
    refine ⟨c, e', if_neg ?_, hvalue, by omega⟩
    unfold adjusted
    omega

/-! ## Division by a power of ten -/

/-- The digits of a coefficient that stand behind the first 28 are zeros. -/
def IsPrecise (c : ℕ) : Prop :=
  10 ^ (digitCount c - precision) ∣ c

instance (c : ℕ) : Decidable (IsPrecise c) :=
  inferInstanceAs (Decidable (_ ∣ _))

/-- A number of 28 significant digits is not changed by rounding. -/
theorem IsPrecise.roundedTo_eq_self {c : ℕ} (h : IsPrecise c) (e : ℤ) :
    roundedTo precision (c * 10 ^ e) = c * 10 ^ e := by
  have hpos := digitCount_pos c
  have hprecision : 0 < precision := by decide
  have hfew : digitCount (c / 10 ^ (digitCount c - precision)) ≤ precision := by
    have hle : digitCount (c / 10 ^ (digitCount c - precision)) ≤
        digitCount c - (digitCount c - precision) := digitCount_div_pow (by omega)
    omega
  have hkept : (c : ℚ) * 10 ^ e = (c / 10 ^ (digitCount c - precision) : ℕ) *
      10 ^ ((digitCount c - precision : ℕ) + e) := by
    conv_lhs => rw [← Nat.div_mul_cancel h]
    rw [ten_zpow_add, zpow_natCast]
    push_cast
    ring
  rw [hkept]
  exact Decimal.roundedTo_eq_self ((digitCount_le_iff hprecision).mp hfew)

theorem Counts.value_eq {places c n : ℕ} {e : ℤ} (h : Counts places c e n) :
    (c : ℚ) * 10 ^ e = n * 10 ^ (-(places : ℤ)) := by
  have hle := h.le_exponent
  have hexponent : e = ((e + places).toNat : ℤ) + -(places : ℤ) := by omega
  calc
    (c : ℚ) * 10 ^ e = c * 10 ^ (((e + places).toNat : ℤ) + -(places : ℤ)) := by rw [← hexponent]
    _ = n * 10 ^ (-(places : ℤ)) := by
      rw [ten_zpow_add, zpow_natCast, ← mul_assoc, ← h.value]
      push_cast
      rfl

/-- A coefficient without zeros at its end has the value of the one with them. -/
theorem exists_stripTo_value {ideal e : ℤ} (c : ℕ) (he : e ≤ ideal) :
    ∃ c' e', stripTo ideal c e = (c', e') ∧ (c' : ℚ) * 10 ^ e' = c * 10 ^ e ∧
      (e' < ideal → c' % 10 ≠ 0) := by
  have hcounts : Counts (-e).toNat c e (c * 10 ^ (e + (-e).toNat).toNat) := ⟨by omega, rfl⟩
  obtain ⟨c', e', hstrip, hsame, -, hdigit⟩ := exists_stripTo hcounts he
  exact ⟨c', e', hstrip, hsame.value_eq.trans hcounts.value_eq.symm, hdigit⟩

/-- Where no zero is left at the end, the exponent is not below that of another coefficient of the
same value. -/
theorem le_exponent_of_value {c c' : ℕ} {e e' : ℤ} (hvalue : (c' : ℚ) * 10 ^ e' = c * 10 ^ e)
    (hdigit : c' % 10 ≠ 0) : e ≤ e' := by
  by_contra hlt
  obtain ⟨k, hk⟩ : ∃ k : ℕ, e = (k + 1 : ℕ) + e' := ⟨(e - e' - 1).toNat, by omega⟩
  rw [hk, ten_zpow_add, zpow_natCast, ← mul_assoc] at hvalue
  have hcast : (c' : ℚ) = ((c * 10 ^ k * 10 : ℕ) : ℚ) := by
    rw [mul_right_cancel₀ (ten_zpow_pos e').ne' hvalue]
    push_cast
    ring
  have hzero : c' = c * 10 ^ k * 10 := by exact_mod_cast hcast
  exact hdigit (hzero ▸ Nat.mul_mod_left _ _)

/-- A number of 28 significant digits is divided by a power of ten without rounding. -/
theorem exists_div_ten_pow (negative : Bool) (places : ℕ) {c : ℕ} {e : ℤ} (hprecise : IsPrecise c)
    (hlow : minExponent + places ≤ e) (hhigh : e + digitCount c ≤ maxAdjusted + places) :
    ∃ c' e', (finite negative c e).div (.finite false (10 ^ places) 0) =
        .ok (.finite negative c' e') ∧
      (c' : ℚ) * 10 ^ e' = c * 10 ^ (e - places) ∧ minExponent ≤ e' := by
  have hden : 10 ^ places ≠ 0 := (ten_pow_pos _).ne'
  have hdiv : (finite negative c e).div (.finite false (10 ^ places) 0) =
      divFinite negative c e (10 ^ places) 0 := by
    rw [div, if_neg hden, Bool.bne_false]
  rw [hdiv]
  unfold divFinite
  extract_lets ideal shift num
  have hideal : ideal = e := sub_zero e
  by_cases hzero : c = 0
  · subst hzero
    refine ⟨0, min (max ideal minExponent) maxAdjusted, rfl, by simp, ?_⟩
    simp only [minExponent, maxAdjusted]
    omega
  · have hpower : places < digitCount (10 ^ places) := lt_digitCount_pow places
    have hdvd : 10 ^ places ∣ num := by
      have hzeros : 10 ^ (digitCount c - precision + shift) ∣ num := by
        rw [pow_add]
        exact Nat.mul_dvd_mul_right hprecise _
      exact (pow_dvd_pow 10 (by omega)).trans hzeros
    obtain ⟨c₁, e₁, hstrip, hstripped, hdigit⟩ :=
      exists_stripTo_value (num / 10 ^ places) (show ideal - shift ≤ ideal by omega)
    have hexact : (c₁ : ℚ) * 10 ^ e₁ = c * 10 ^ (e - places) := by
      have hquotient : ((num / 10 ^ places : ℕ) : ℚ) = c * 10 ^ ((shift : ℤ) - places) := by
        rw [zpow_sub₀ (by norm_num), zpow_natCast, zpow_natCast, ← mul_div_assoc,
          eq_div_iff (by positivity)]
        exact_mod_cast Nat.div_mul_cancel hdvd
      rw [hstripped, hquotient, hideal, mul_assoc, ← ten_zpow_add]
      congr 2
      ring
    have hlowest : e - places ≤ e₁ := by
      by_cases hreached : e₁ < ideal
      · exact le_exponent_of_value hexact (hdigit hreached)
      · omega
    have hhighest : c₁ ≠ 0 → e₁ + digitCount c₁ ≤ maxAdjusted := by
      intro hne
      have hbelow := mul_zpow_lt c (e - places)
      rw [← hexact] at hbelow
      have := add_digitCount_le hne hbelow
      omega
    obtain ⟨c', e', hrounded, hvalue, hmin⟩ := exists_rounded negative (by omega) hhighest
    rw [hexact, hprecise.roundedTo_eq_self] at hvalue
    refine ⟨c', e', ?_, hvalue, hmin⟩
    rw [if_neg hzero, if_pos (Nat.mod_eq_zero_of_dvd hdvd), hstrip]
    exact hrounded

end NodeLedger.Decimal
