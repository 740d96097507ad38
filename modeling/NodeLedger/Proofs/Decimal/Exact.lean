import Mathlib.Algebra.GroupWithZero.Nat
import Mathlib.Tactic.Ring
import NodeLedger.Decimal.Arithmetic

/-!
# Decimals that are calculated exactly

A decimal that is calculated is rounded to 28 digits.  Nothing is lost if the digits that are
dropped are zeros, and so products and quotients of numbers with few digits are exact.  Exponents
differ from number to number, so that two of them are compared by counting both in units of one
size.

Main results:

- Structure `Decimal.Counts`: a number is so many units of a power of ten.
- Theorem `Decimal.rounded_eq`: rounding drops zeros only.
- Theorem `Decimal.exists_stripTo`: a coefficient without zeros at its end counts the same.
- Theorems `Decimal.Counts.isWhole_iff` and `Decimal.Counts.truncate_eq`: whole numbers.
-/

namespace NodeLedger.Decimal

open NodeLedger.Numeral

/-! ## Digits of naturals -/

theorem ten_pow_pos (k : Nat) : 0 < 10 ^ k :=
  Nat.pow_pos (by decide)

theorem digitCount_pos (n : Nat) : 0 < digitCount n :=
  Nat.length_toDigits_pos

theorem digitCount_le_iff {n k : Nat} (hk : 0 < k) : digitCount n ≤ k ↔ n < 10 ^ k :=
  Nat.length_toDigits_le_iff (by decide) hk

theorem lt_pow_digitCount (n : Nat) : n < 10 ^ digitCount n :=
  (digitCount_le_iff (digitCount_pos n)).mp le_rfl

theorem lt_digitCount_pow (k : Nat) : k < digitCount (10 ^ k) := by
  by_contra hfew
  rcases Nat.eq_zero_or_pos k with rfl | hk
  · exact hfew (digitCount_pos _)
  · exact absurd ((digitCount_le_iff hk).mp (by omega)) (lt_irrefl _)

/-- A multiple of the divisor is divided without rounding. -/
theorem roundQuotient_of_dvd {num den : Nat} (hden : 0 < den) (h : den ∣ num) :
    roundQuotient num den = num / den := by
  unfold roundQuotient
  simp [Nat.mod_eq_zero_of_dvd h, hden]

/-- The digits of a natural that are left when some are dropped. -/
theorem digitCount_div_pow {n drop : Nat} (h : drop < digitCount n) :
    digitCount (n / 10 ^ drop) ≤ digitCount n - drop := by
  rw [digitCount_le_iff (by omega), Nat.div_lt_iff_lt_mul (ten_pow_pos _), ← pow_add,
    Nat.sub_add_cancel h.le]
  exact lt_pow_digitCount n

/-! ## Numbers in units of a power of ten -/

/-- The number `c * 10 ^ e` is `n` units of `10 ^ -places`. -/
structure Counts (places c : Nat) (e : Int) (n : Nat) : Prop where
  le_exponent : -(places : Int) ≤ e
  value : c * 10 ^ (e + places).toNat = n

namespace Counts

variable {places c n : Nat} {e : Int} (h : Counts places c e n)

include h

/-- Zeros at the end of a coefficient may be dropped. -/
theorem div_pow {k : Nat} (hdvd : 10 ^ k ∣ c) : Counts places (c / 10 ^ k) (e + k) n where
  le_exponent := by
    have := h.le_exponent
    omega
  value := by
    have hexponent : (e + k + places).toNat = k + (e + places).toNat := by
      have := h.le_exponent
      omega
    rw [hexponent, pow_add, ← mul_assoc, Nat.div_mul_cancel hdvd, h.value]

theorem mul_pow (k : Nat) : Counts places (c * 10 ^ k) e (n * 10 ^ k) where
  le_exponent := h.le_exponent
  value := by
    rw [mul_right_comm, h.value]

/-- The exponent is that of a natural, or the units are finer than it tells. -/
theorem natural_or_finer :
    (∃ k : Nat, e = k ∧ n = c * 10 ^ k * 10 ^ places) ∨
      ∃ j k : Nat, e = -(j : Int) ∧ 0 < j ∧ places = j + k ∧ n = c * 10 ^ k := by
  have hfine := h.le_exponent
  by_cases hnatural : 0 ≤ e
  · refine .inl ⟨e.toNat, by omega, ?_⟩
    have hexponent : (e + places).toNat = e.toNat + places := by omega
    rw [← h.value, hexponent, pow_add, mul_assoc]
  · refine .inr ⟨e.natAbs, (e + places).toNat, by omega, by omega, by omega, h.value.symm⟩

/-- A number is whole if its units make up whole ones. -/
theorem isWhole_iff : isWhole c e = true ↔ 10 ^ places ∣ n := by
  obtain ⟨k, rfl, rfl⟩ | ⟨j, k, rfl, hj, rfl, rfl⟩ := h.natural_or_finer
  · simp [isWhole]
  · have hdigits : c ≠ 0 → 10 ^ j ∣ c → j < digitCount c := by
      intro hne hdvd
      by_contra hfew
      have hlt : c < 10 ^ j := (digitCount_le_iff hj).mp (by omega)
      exact absurd (Nat.le_of_dvd (Nat.pos_of_ne_zero hne) hdvd) (by omega)
    have hdvd : 10 ^ (j + k) ∣ c * 10 ^ k ↔ 10 ^ j ∣ c := by
      rw [pow_add]
      exact Nat.mul_dvd_mul_iff_right (ten_pow_pos _)
    have hneg : ¬ 0 ≤ -(j : Int) := by omega
    rw [hdvd]
    simp only [isWhole, hneg, decide_false, Bool.false_or, Bool.or_eq_true, Bool.and_eq_true,
      beq_iff_eq, decide_eq_true_eq, Int.natAbs_neg, Int.natAbs_natCast, Nat.pow_eq,
      ← Nat.dvd_iff_mod_eq_zero]
    by_cases hzero : c = 0
    · simp [hzero]
    · simp only [hzero, false_or, and_iff_right_iff_imp]
      exact hdigits hzero

/-- Its integer part is what the units make up. -/
theorem truncate_eq : truncate false c e = ((n / 10 ^ places : Nat) : Int) := by
  obtain ⟨k, rfl, rfl⟩ | ⟨j, k, rfl, hj, rfl, rfl⟩ := h.natural_or_finer
  · simp [truncate, Nat.mul_div_cancel _ (ten_pow_pos _)]
  · have hneg : ¬ 0 ≤ -(j : Int) := by omega
    have hquotient : c * 10 ^ k / 10 ^ (j + k) = c / 10 ^ j := by
      rw [pow_add]
      exact Nat.mul_div_mul_right _ _ (ten_pow_pos _)
    rw [hquotient]
    simp only [truncate, hneg, Int.natAbs_neg, Int.natAbs_natCast, Nat.pow_eq, if_false,
      Bool.false_eq_true]
    by_cases hfew : digitCount c < j
    · rw [if_pos hfew, Nat.div_eq_of_lt ((digitCount_le_iff hj).mp hfew.le)]
    · rw [if_neg hfew]

end Counts

/-! ## Rounding -/

/-- A natural is not changed where it is rounded, if the digits that are dropped are zeros. -/
theorem rounded_eq {num : Nat} {e : Int} (negative : Bool)
    (hdvd : 10 ^ (digitCount num - precision) ∣ num) (hlow : minExponent ≤ e)
    (hhigh : e + digitCount num ≤ maxAdjusted + 1) :
    rounded negative num 1 e =
      .ok (.finite negative (num / 10 ^ (digitCount num - precision))
        (e + (digitCount num - precision : Nat))) := by
  have hpos := digitCount_pos num
  have hdigits : digitCount (num / 10 ^ (digitCount num - precision)) ≤
      digitCount num - (digitCount num - precision) :=
    digitCount_div_pow (by unfold precision; omega)
  unfold rounded
  by_cases hzero : num = 0
  · subst hzero
    have hone : digitCount 0 - precision = 0 := by decide
    have he : min (max e minExponent) maxAdjusted = e := by omega
    simp [hone, zeroAt, he]
  · have hdrop : max (digitCount num - precision) (minExponent - e).toNat =
        digitCount num - precision := by omega
    have hquotient : dropDigits num 1 (digitCount num - precision) =
        num / 10 ^ (digitCount num - precision) := by
      unfold dropDigits
      rw [Nat.div_one, if_neg (by omega), Nat.pow_eq, one_mul,
        roundQuotient_of_dvd (ten_pow_pos _) hdvd]
    have hcarry : num / 10 ^ (digitCount num - precision) ≠ Nat.pow 10 precision :=
      ((digitCount_le_iff (by decide)).mp (by omega)).ne
    rw [if_neg hzero]
    dsimp only
    rw [Nat.div_one, hdrop, hquotient, if_neg hcarry]
    dsimp only
    rw [if_neg]
    unfold adjusted
    omega

/-! ## Zeros at the end -/

/-- Without zeros at its end, as far as they may be left out, a coefficient counts the same. -/
theorem exists_stripTo {c places n : Nat} {ideal e : Int} (h : Counts places c e n)
    (he : e ≤ ideal) :
    ∃ c' e', stripTo ideal c e = (c', e') ∧ Counts places c' e' n ∧ e' ≤ ideal ∧
      (e' < ideal → c' % 10 ≠ 0) := by
  -- The exponent grows by one in each step, until a digit stands in the way.
  have hsteps : ∀ steps : Nat, ∃ c' e',
      (List.range steps).foldl
        (fun left _ => if left.1 % 10 = 0 then (left.1 / 10, left.2 + 1) else left) (c, e) =
          (c', e') ∧
      Counts places c' e' n ∧ e' ≤ e + steps ∧ (e' < e + steps → c' % 10 ≠ 0) := by
    intro steps
    induction steps with
    | zero => exact ⟨c, e, rfl, h, by simp, by simp⟩
    | succ steps ih =>
      obtain ⟨c', e', hfold, hcounts, hle, hdigit⟩ := ih
      rw [List.range_succ, List.foldl_append, List.foldl_cons, List.foldl_nil, hfold]
      by_cases hzero : c' % 10 = 0
      · have hcounts' : Counts places (c' / 10) (e' + 1) n := by
          simpa using hcounts.div_pow (k := 1) (by simpa using Nat.dvd_of_mod_eq_zero hzero)
        have hreached : ¬ e' < e + steps := fun hlt => hdigit hlt hzero
        exact ⟨c' / 10, e' + 1, if_pos hzero, hcounts', by omega, by omega⟩
      · exact ⟨c', e', if_neg hzero, hcounts, by omega, fun _ => hzero⟩
  have hideal : e + (ideal - e).toNat = ideal := by omega
  have hstripped := hsteps (ideal - e).toNat
  rw [hideal] at hstripped
  exact hstripped

/-- Coarser units do, if there is no zero at the end that stands for less than one of them. -/
theorem Counts.coarser {finer places c n : Nat} {e : Int}
    (h : Counts finer c e (n * 10 ^ (finer - places))) (hplaces : places ≤ finer)
    (hdigit : e < 0 → c % 10 ≠ 0) : Counts places c e n := by
  have hfine := h.le_exponent
  have hvalue := h.value
  by_cases hcoarse : -(places : Int) ≤ e
  · refine ⟨hcoarse, Nat.eq_of_mul_eq_mul_right (ten_pow_pos (finer - places)) ?_⟩
    have hexponent : (e + finer).toNat = (e + places).toNat + (finer - places) := by omega
    rwa [hexponent, pow_add, ← mul_assoc] at hvalue
  · obtain ⟨k, hk⟩ : ∃ k, finer - places = k + 1 + (e + finer).toNat :=
      ⟨finer - places - 1 - (e + finer).toNat, by omega⟩
    rw [hk, pow_add, ← mul_assoc] at hvalue
    have hc : c = n * 10 ^ k * 10 := by
      rw [Nat.eq_of_mul_eq_mul_right (ten_pow_pos _) hvalue, pow_succ, mul_assoc]
    exact absurd (hc ▸ Nat.mul_mod_left (n * 10 ^ k) 10) (hdigit (by omega))

theorem Counts.le {places c n : Nat} {e : Int} (h : Counts places c e n) : c ≤ n := by
  rw [← h.value]
  exact Nat.le_mul_of_pos_right c (ten_pow_pos _)

/-! ## Products and quotients -/

theorem ofInt_natCast (n : Nat) : ofInt n = .finite false n 0 := by
  simp [ofInt]

section FewDigits

variable {n places : Nat} (hn : n < 10 ^ precision)

include hn

theorem digitCount_le_precision : digitCount n ≤ precision :=
  (digitCount_le_iff (by decide)).mpr hn

/-- A natural of no more than 28 digits keeps all of them where it is rounded. -/
theorem rounded_of_lt (negative : Bool) {e : Int} (hlow : minExponent ≤ e) (hhigh : e ≤ 0) :
    rounded negative n 1 e = .ok (.finite negative n e) := by
  have hdigits := digitCount_le_precision hn
  have hfew : digitCount n - precision = 0 := by omega
  have hrange : e + digitCount n ≤ maxAdjusted + 1 := by
    simp only [precision, maxAdjusted] at hdigits ⊢
    omega
  have hrounded := rounded_eq negative (by simp [hfew]) hlow hrange
  rwa [hfew, pow_zero, Nat.div_one, Nat.cast_zero, add_zero] at hrounded

/-- A natural of no more than 28 digits is divided by a power of ten exactly. -/
theorem exists_div_pow (hplaces : minExponent ≤ -(places : Int)) :
    ∃ c e, (ofInt n).div (.finite false (10 ^ places) 0) = .ok (.finite false c e) ∧
      Counts places c e n ∧ e ≤ 0 := by
  have hden : 10 ^ places ≠ 0 := (ten_pow_pos _).ne'
  have hdiv : (ofInt n).div (.finite false (10 ^ places) 0) =
      divFinite false n 0 (10 ^ places) 0 := by
    rw [ofInt_natCast, div, if_neg hden]
    rfl
  rw [hdiv]
  unfold divFinite
  by_cases hzero : n = 0
  · subst hzero
    exact ⟨0, 0, by simp [zeroAt, minExponent, maxAdjusted], ⟨by simp, by simp⟩, le_rfl⟩
  · have hpower : places < digitCount (10 ^ places) := lt_digitCount_pow places
    have hdigits : digitCount n ≤ precision := (digitCount_le_iff (by decide)).mpr hn
    extract_lets ideal shift num
    have hshift : places ≤ shift := by omega
    have hnum : num = n * 10 ^ (shift - places) * 10 ^ places := by
      rw [mul_assoc, ← pow_add, Nat.sub_add_cancel hshift]
      rfl
    have hquotient : num / 10 ^ places = n * 10 ^ (shift - places) := by
      rw [hnum, Nat.mul_div_cancel _ (ten_pow_pos _)]
    have hshifted : Counts shift (num / 10 ^ places) (ideal - shift) (n * 10 ^ (shift - places)) :=
      ⟨by omega, by simp [hquotient, ideal]⟩
    obtain ⟨c, e, hstrip, hcounts, hle, hdigit⟩ :=
      exists_stripTo hshifted (show ideal - shift ≤ ideal by omega)
    have hexact : Counts places c e n := hcounts.coarser hshift hdigit
    refine ⟨c, e, ?_, hexact, hle⟩
    rw [if_neg hzero, if_pos (by rw [hnum, Nat.mul_mod_left]), hstrip]
    exact rounded_of_lt (lt_of_le_of_lt hexact.le hn) false (hplaces.trans hexact.le_exponent) hle

/-- A number of no more than 28 digits is multiplied by a power of ten exactly. -/
theorem exists_mul_pow {units k : Nat} {e : Int} (h : Counts places n e units)
    (hplaces : minExponent ≤ -(places : Int)) (he : e ≤ 0) (hk : k ≤ 100) :
    ∃ c f, (finite false n e).mul (.finite false (10 ^ k) 0) = .ok (.finite false c f) ∧
      Counts places c f (units * 10 ^ k) := by
  have hdigits : digitCount (n * 10 ^ k) ≤ precision + k := by
    rw [digitCount_le_iff (by simp [precision]), pow_add]
    exact Nat.mul_lt_mul_of_pos_right hn (ten_pow_pos k)
  have hdvd : 10 ^ (digitCount (n * 10 ^ k) - precision) ∣ n * 10 ^ k :=
    (pow_dvd_pow 10 (by omega)).trans (Nat.dvd_mul_left _ _)
  have hrange : e + digitCount (n * 10 ^ k) ≤ maxAdjusted + 1 := by
    simp only [precision, maxAdjusted] at hdigits ⊢
    omega
  refine ⟨_, _, ?_, (h.mul_pow k).div_pow hdvd⟩
  rw [mul, bne_self_eq_false, add_zero]
  exact rounded_eq false hdvd (hplaces.trans h.le_exponent) hrange

end FewDigits

end NodeLedger.Decimal
