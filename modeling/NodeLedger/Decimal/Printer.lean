import NodeLedger.Decimal.Basic

/-!
Writing decimals.  All digits of the coefficient are written.  The number is positional if the
exponent is not positive and at most five zeros stand between the point and the first digit;
otherwise one digit stands before the point and an exponent with its sign behind.
-/

namespace NodeLedger.Decimal

open NodeLedger.Numeral

/-- The digits of a finite number with its point `point` digits behind their beginning. -/
def pointed (digits : List Char) (point : Int) : List Char :=
  if point ≤ 0 then '0' :: '.' :: List.replicate point.natAbs '0' ++ digits
  else if (digits.length : Int) ≤ point then
    digits ++ List.replicate (point - digits.length).toNat '0'
  else digits.take point.toNat ++ '.' :: digits.drop point.toNat

/-- The exponent behind a number in scientific form; there is none for zero. -/
def exponentText (e : Int) : List Char :=
  if e = 0 then []
  else 'E' :: (if e < 0 then '-' else '+') :: Nat.toDigits 10 e.natAbs

/-- The text of a finite number without its sign. -/
def finiteText (coefficient : Nat) (exponent : Int) : List Char :=
  let digits := Nat.toDigits 10 coefficient
  let left : Int := exponent + digits.length
  let point := if exponent ≤ 0 ∧ -6 < left then left else 1
  pointed digits point ++ exponentText (left - point)

/-- A sign in front of a text. -/
def signed (negative : Bool) (cs : List Char) : String :=
  String.ofList (if negative then '-' :: cs else cs)

/-- The text of a decimal. -/
def text : Decimal → String
  | .finite negative c e => signed negative (finiteText c e)
  | .infinite negative => signed negative "Infinity".toList
  | .nan negative signaling payload =>
    let name := if signaling then "sNaN" else "NaN"
    signed negative (name.toList ++ if payload = 0 then [] else Nat.toDigits 10 payload)

instance : ToString Decimal :=
  ⟨text⟩

end NodeLedger.Decimal
