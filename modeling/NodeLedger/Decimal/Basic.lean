import NodeLedger.Numeral.Binary64

/-!
Decimal numbers with their exponent kept: `1.0` and `1.00` are equal in value and written
differently.  Besides finite numbers there are the infinities and numbers that are none; a signaling
one may be written and carried along but not calculated with.
-/

namespace NodeLedger

/-- A decimal number; a finite one is `± coefficient * 10 ^ exponent`. -/
inductive Decimal where
  | finite (negative : Bool) (coefficient : Nat) (exponent : Int)
  | infinite (negative : Bool)
  | nan (negative : Bool) (signaling : Bool) (payload : Nat)
  deriving DecidableEq, Repr

/-- Why a decimal could not be read or calculated. -/
inductive DecimalFault where
  /-- The text is no decimal numeral. -/
  | malformed
  /-- The operation has no result, or the numeral no exact value. -/
  | invalid
  /-- The result is too large. -/
  | overflow
  /-- A number other than zero was divided by zero. -/
  | divisionByZero
  deriving DecidableEq, Repr

namespace Decimal

open NodeLedger.Numeral

/-- An integer as a decimal. -/
def ofInt (n : Int) : Decimal :=
  .finite (decide (n < 0)) n.natAbs 0

/-- Whether a decimal is a zero of either sign. -/
def isZero : Decimal → Bool
  | .finite _ c _ => c == 0
  | _ => false

/-- The exponent of the first digit of a coefficient with an exponent. -/
def adjusted (coefficient : Nat) (exponent : Int) : Int :=
  exponent + digitCount coefficient - 1

/-- The integer part of a finite number. -/
def truncate (negative : Bool) (coefficient : Nat) (exponent : Int) : Int :=
  let n : Nat :=
    if 0 ≤ exponent then coefficient * Nat.pow 10 exponent.natAbs
    else if digitCount coefficient < exponent.natAbs then 0
    else coefficient / Nat.pow 10 exponent.natAbs
  if negative then -(n : Int) else n

end Decimal

end NodeLedger
