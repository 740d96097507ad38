import NodeLedger.Decimal.Basic

/-!
Decimal arithmetic in 28 digits.  A result is the exact value rounded once, half to even, to 28
digits, or to fewer where its exponent would fall below the least one.  An exact product or quotient
keeps the exponent that its operands suggest as far as its digits allow.
-/

namespace NodeLedger.Decimal

open NodeLedger.Numeral

/-- The number of digits of a calculated coefficient. -/
def precision : Nat := 28

/-- The largest exponent of a first digit. -/
def maxAdjusted : Int := 999999

/-- The least exponent of a last digit. -/
def minExponent : Int := -1000026

/-- A zero, with its exponent moved into range. -/
def zeroAt (negative : Bool) (exponent : Int) : Decimal :=
  .finite negative 0 (min (max exponent minExponent) maxAdjusted)

/-- `num / den` without its last `drop` digits, rounded half to even. -/
def dropDigits (num den drop : Nat) : Nat :=
  if digitCount (num / den) < drop then 0 else roundQuotient num (den * Nat.pow 10 drop)

/-- The value `± num / den * 10 ^ exponent`, rounded once; `num / den` is a natural or has more than
28 digits before its point. -/
def rounded (negative : Bool) (num den : Nat) (exponent : Int) : Except DecimalFault Decimal :=
  if num = 0 then .ok (zeroAt negative exponent) else
    let excess := digitCount (num / den) - precision
    let drop := max excess (minExponent - exponent).toNat
    let c := dropDigits num den drop
    let e := exponent + drop
    -- Rounding up can leave the power of ten that has one digit too many.
    let (c, e) := if c = Nat.pow 10 precision then (Nat.pow 10 (precision - 1), e + 1) else (c, e)
    if maxAdjusted < adjusted c e then .error .overflow else .ok (.finite negative c e)

/-- The operand that a calculation with numbers that are none returns; a signaling one is an error.
-/
def undefinedResult? : Decimal → Decimal → Option (Except DecimalFault Decimal)
  | .nan _ true _, _ => some (.error .invalid)
  | _, .nan _ true _ => some (.error .invalid)
  | .nan s false p, _ => some (.ok (.nan s false (p % Nat.pow 10 precision)))
  | _, .nan s false p => some (.ok (.nan s false (p % Nat.pow 10 precision)))
  | _, _ => none

/-- The product of two decimals. -/
def mul (a b : Decimal) : Except DecimalFault Decimal :=
  match a, b with
  | .finite s c e, .finite t d f => rounded (s != t) (c * d) 1 (e + f)
  | .infinite s, .infinite t => .ok (.infinite (s != t))
  | .infinite s, .finite t d _ => if d = 0 then .error .invalid else .ok (.infinite (s != t))
  | .finite s c _, .infinite t => if c = 0 then .error .invalid else .ok (.infinite (s != t))
  | a, b => (undefinedResult? a b).getD (.error .invalid)

/-- A coefficient without trailing zeros, as long as its exponent stays at most `ideal`. -/
def stripTo (ideal : Int) (coefficient : Nat) (exponent : Int) : Nat × Int :=
  (List.range (ideal - exponent).toNat).foldl
    (fun (c, e) _ => if c % 10 = 0 then (c / 10, e + 1) else (c, e)) (coefficient, exponent)

/-- The quotient of two finite numbers, the divisor not being zero. -/
def divFinite (negative : Bool) (c : Nat) (e : Int) (d : Nat) (f : Int) :
    Except DecimalFault Decimal :=
  let ideal := e - f
  if c = 0 then .ok (zeroAt negative ideal) else
    -- Enough zeros behind the dividend for a quotient of more than 28 digits.
    let shift := digitCount d + precision + 1 - digitCount c
    let num := c * Nat.pow 10 shift
    if num % d = 0 then
      let (q, exponent) := stripTo ideal (num / d) (ideal - shift)
      rounded negative q 1 exponent
    else rounded negative num d (ideal - shift)

/-- The quotient of two decimals. -/
def div (a b : Decimal) : Except DecimalFault Decimal :=
  match a, b with
  | .finite s c e, .finite t d f =>
    if d = 0 then .error (if c = 0 then .invalid else .divisionByZero)
    else divFinite (s != t) c e d f
  | .infinite _, .infinite _ => .error .invalid
  | .infinite s, .finite t _ _ => .ok (.infinite (s != t))
  | .finite s _ _, .infinite t => .ok (.finite (s != t) 0 minExponent)
  | a, b => (undefinedResult? a b).getD (.error .invalid)

/-- Whether a finite number is an integer. -/
def isWhole (coefficient : Nat) (exponent : Int) : Bool :=
  0 ≤ exponent || coefficient == 0 ||
    (exponent.natAbs < digitCount coefficient && coefficient % Nat.pow 10 exponent.natAbs == 0)

end NodeLedger.Decimal
