import NodeLedger.Price.Basic
import NodeLedger.Proofs.Decimal.Rounding

/-!
# What amounts are worth

An amount is valued in two calculations: the price of a bitcoin is divided by the number of its
parts, and then multiplied by the amount.  The first one divides by a power of ten, which loses
nothing of a price of 28 significant digits; so there is only one rounding, that of the product.

Main results:

- Definition `WithinLimits`: the exponents of a price and an amount are far from the limits.
- Theorem `exists_fiatValue`: an amount is worth the exact product, rounded once.
- Theorem `fiatValue_rounded`: so the value is exact if the product has few digits, and more is not
  worth less.
-/

namespace NodeLedger

open NodeLedger.Decimal NodeLedger.Numeral

/-- The exponents of a price and of what an amount is worth at that price are far from the limits of
calculation. -/
structure WithinLimits (coefficient : ℕ) (exponent msat : ℤ) : Prop where
  low : minExponent + 11 ≤ exponent
  high : exponent + digitCount coefficient + digitCount msat.natAbs ≤ maxAdjusted

instance (coefficient : ℕ) (exponent msat : ℤ) :
    Decidable (WithinLimits coefficient exponent msat) :=
  decidable_of_iff (_ ∧ _) ⟨fun h => ⟨h.1, h.2⟩, fun h => ⟨h.low, h.high⟩⟩

variable {negative : Bool} {c : ℕ} {e : ℤ}

/-- What an amount makes up of a price, by its sign and its digits. -/
theorem worth_eq (negative : Bool) (c : ℕ) (e msat : ℤ) :
    signFactor negative * (c * 10 ^ e) * msat / 10 ^ 11 =
      signFactor (negative != decide (msat < 0)) * ((c * msat.natAbs : ℕ) * 10 ^ (e - 11)) := by
  have hparts : (10 : ℚ) ^ (e - 11) = 10 ^ e / 10 ^ 11 := zpow_sub₀ (by norm_num) e 11
  rw [signFactor_bne, hparts]
  conv_lhs => rw [← signFactor_mul_natAbs msat]
  push_cast
  ring

/-- An amount is worth what it makes up of the price, rounded once to 28 digits. -/
theorem exists_fiatValue (negative : Bool) (hprecise : IsPrecise c) {msat : ℤ}
    (hlimits : WithinLimits c e msat) :
    ∃ value, fiatValue (.finite negative c e) msat = .ok value ∧
      value.value? = some (roundedTo precision
        (signFactor negative * (c * 10 ^ e) * msat / 10 ^ 11)) := by
  obtain ⟨hlow, hhigh⟩ := hlimits
  have hsome := digitCount_pos msat.natAbs
  obtain ⟨c₁, e₁, hdiv, hpart, hmin⟩ :=
    exists_div_ten_pow negative 11 hprecise (by omega) (by omega)
  have hproduct : ((c₁ * msat.natAbs : ℕ) : ℚ) * 10 ^ e₁ =
      (c * msat.natAbs : ℕ) * 10 ^ (e - 11) := by
    push_cast
    rw [mul_right_comm, hpart, mul_right_comm]
    rfl
  -- The product has no more digits than its factors together.
  have hdigits : c₁ * msat.natAbs ≠ 0 → e₁ + digitCount (c₁ * msat.natAbs) ≤ maxAdjusted := by
    intro hne
    have hbelow : ((c₁ * msat.natAbs : ℕ) : ℚ) * 10 ^ e₁ <
        10 ^ (e - 11 + digitCount c + digitCount msat.natAbs) := by
      have hcount : (msat.natAbs : ℚ) < 10 ^ digitCount msat.natAbs := by
        exact_mod_cast lt_pow_digitCount msat.natAbs
      rw [hproduct, Nat.cast_mul, mul_right_comm, ten_zpow_add (e - 11 + digitCount c), zpow_natCast]
      exact mul_lt_mul'' (mul_zpow_lt c (e - 11)) hcount (by positivity) (by positivity)
    have := add_digitCount_le hne hbelow
    omega
  obtain ⟨c₂, e₂, hmul, hvalue, -⟩ := exists_rounded (negative != decide (msat < 0)) hmin hdigits
  refine ⟨.finite (negative != decide (msat < 0)) c₂ e₂, ?_, ?_⟩
  · have hfirst : (Decimal.finite negative c e).div Amount.perBitcoin =
        .ok (.finite negative c₁ e₁) := hdiv
    have hsecond : (Decimal.finite negative c₁ e₁).mul (ofInt msat) =
        .ok (.finite (negative != decide (msat < 0)) c₂ e₂) := by
      rw [ofInt, mul, add_zero]
      exact hmul
    unfold fiatValue
    rw [hfirst]
    dsimp only
    rw [hsecond]
  · rw [value?, hvalue, hproduct, worth_eq, roundedTo_signFactor_mul]

/-- The value of an amount at a price of 28 significant digits is the exact value, rounded once half
to even to 28 digits.  It is exact if the coefficients have a product of no more digits.  At a price
that is not negative, a larger amount is not worth less. -/
theorem fiatValue_rounded {price : ℚ}
    (hprice : (Decimal.finite negative c e).value? = some price) (hprecise : IsPrecise c) :
    (∀ msat, WithinLimits c e msat →
      ∃ value, fiatValue (.finite negative c e) msat = .ok value ∧
        value.value? = some (roundedTo 28 (price * msat / 10 ^ 11)) ∧
        (digitCount (c * msat.natAbs) ≤ 28 → value.value? = some (price * msat / 10 ^ 11))) ∧
    (0 ≤ price → ∀ less more, less ≤ more → WithinLimits c e less → WithinLimits c e more →
      ∃ v w x y, fiatValue (.finite negative c e) less = .ok v ∧
        fiatValue (.finite negative c e) more = .ok w ∧
        v.value? = some x ∧ w.value? = some y ∧ x ≤ y) := by
  obtain rfl : signFactor negative * (c * 10 ^ e) = price := Option.some.inj hprice
  refine ⟨?_, ?_⟩
  · intro msat hlimits
    obtain ⟨value, hvalued, hvalue⟩ := exists_fiatValue negative hprecise hlimits
    refine ⟨value, hvalued, hvalue, ?_⟩
    intro hfew
    have hlt : c * msat.natAbs < 10 ^ precision := (digitCount_le_iff (by decide)).mp hfew
    rw [hvalue, worth_eq, roundedTo_signFactor_mul, roundedTo_eq_self hlt]
  · intro hpositive less more hle hless hmore
    obtain ⟨v, hv, hx⟩ := exists_fiatValue negative hprecise hless
    obtain ⟨w, hw, hy⟩ := exists_fiatValue negative hprecise hmore
    have hcast : (less : ℚ) ≤ more := by exact_mod_cast hle
    refine ⟨v, w, _, _, hv, hw, hx, hy, roundedTo_mono (by decide) ?_⟩
    exact div_le_div_of_nonneg_right (mul_le_mul_of_nonneg_left hcast hpositive) (by positivity)

/-- The price 2000.000000000000000000000003, of 28 digits, and two amounts: one has a value that
lies right between two numbers of 28 digits and is rounded to the even one, the other one is exact. -/
theorem fiatValue_rounded_tie :
    let price := Decimal.finite false 2000000000000000000000000003 (-24)
    ∃ p : ℚ, price.value? = some p ∧ IsPrecise 2000000000000000000000000003 ∧ 0 ≤ p ∧
      WithinLimits 2000000000000000000000000003 (-24) 4 ∧
      WithinLimits 2000000000000000000000000003 (-24) 5 ∧
      fiatValue price 5 = .ok (.finite false 1000000000000000000000000002 (-34)) ∧
      roundedTo 28 (p * 5 / 10 ^ 11) = 1000000000000000000000000002 * 10 ^ (-34 : ℤ) ∧
      (∃ v, fiatValue price 4 = .ok v ∧ v.value? = some (p * 4 / 10 ^ 11)) ∧
      ∃ v w x y, fiatValue price 4 = .ok v ∧ fiatValue price 5 = .ok w ∧
        v.value? = some x ∧ w.value? = some y ∧ x ≤ y := by
  intro price
  have hprecise : IsPrecise 2000000000000000000000000003 := by decide +kernel
  have hfour : WithinLimits 2000000000000000000000000003 (-24) 4 := by decide +kernel
  have hfive : WithinLimits 2000000000000000000000000003 (-24) 5 := by decide +kernel
  have hprice : (Decimal.finite false 2000000000000000000000000003 (-24)).value? =
      some (signFactor false * ((2000000000000000000000000003 : ℕ) * 10 ^ (-24 : ℤ))) := rfl
  obtain ⟨hvalues, hmono⟩ := fiatValue_rounded hprice hprecise
  obtain ⟨value, hvalued, hrounded, -⟩ := hvalues 5 hfive
  have hcomputed : (fiatValue price 5).toOption =
      some (.finite false 1000000000000000000000000002 (-34)) := by decide +kernel
  rw [hvalued] at hcomputed
  obtain rfl := Option.some.inj hcomputed
  refine ⟨_, rfl, hprecise, by norm_num [signFactor], hfour, hfive, hvalued, ?_, ?_, ?_⟩
  · simpa [value?, signFactor] using (Option.some.inj hrounded).symm
  · obtain ⟨whole, hvalue, -, hexact⟩ := hvalues 4 hfour
    exact ⟨whole, hvalue, by simpa using hexact (by decide +kernel)⟩
  · exact hmono (by norm_num [signFactor]) 4 5 (by decide) hfour hfive

end NodeLedger
