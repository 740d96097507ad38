import NodeLedger.Numeral.Integer

/-!
Binary floating point numbers of 64 bits, as exact values: a sign, a significand below `2 ^ 53` and
an exponent of two.  Reading rounds a decimal to the nearest such number, ties to the even
significand; printing chooses the fewest decimal digits that read back.
-/

namespace NodeLedger.Numeral

open NodeLedger.Text

/-- A binary floating point number; a finite one is `± significand * 2 ^ exponent`. -/
inductive Binary64 where
  | finite (negative : Bool) (significand : Nat) (exponent : Int)
  | infinite (negative : Bool)
  | nan
  deriving DecidableEq, Repr

/-- The quotient of two naturals rounded to the nearest integer, ties to the even one. -/
def roundQuotient (num den : Nat) : Nat :=
  let q := num / den
  let twice := 2 * (num % den)
  if twice < den then q
  else if den < twice then q + 1
  else if q % 2 = 0 then q else q + 1

/-- The number of decimal digits of a natural, which is one for zero. -/
def digitCount (n : Nat) : Nat :=
  (Nat.toDigits 10 n).length

namespace Binary64

/-- The smallest exponent. -/
def minExponent : Int := -1074

/-- The largest exponent. -/
def maxExponent : Int := 971

/-- Zero with a sign. -/
def zero (negative : Bool) : Binary64 :=
  .finite negative 0 minExponent

/-- The significand of `num / den` for an exponent, rounded. -/
def scaled (num den : Nat) (exponent : Int) : Nat :=
  if exponent < 0 then roundQuotient (num * Nat.pow 2 exponent.natAbs) den
  else roundQuotient num (den * Nat.pow 2 exponent.natAbs)

/-- The exponent that gives the quotient of two positive naturals a significand of 53 bits, or the
smallest exponent if that is larger. -/
def exponentOf (num den : Nat) : Int :=
  let guess : Int := (num.log2 : Int) - den.log2 - 52
  -- The quotient of the powers of two is off by less than a factor of two, one way or the other.
  let tight : Bool :=
    if guess < 0 then decide (num * Nat.pow 2 guess.natAbs < den * Nat.pow 2 52)
    else decide (num < den * Nat.pow 2 guess.natAbs * Nat.pow 2 52)
  max (if tight then guess - 1 else guess) minExponent

/-- The floating point number nearest to a quotient of naturals, the divisor not being zero. -/
def ofQuotient (negative : Bool) (num den : Nat) : Binary64 :=
  if num = 0 then zero negative else
    let e := exponentOf num den
    let m := scaled num den e
    let (m, e) := if m = Nat.pow 2 53 then (Nat.pow 2 52, e + 1) else (m, e)
    if maxExponent < e then .infinite negative else .finite negative m e

/-- The floating point number nearest to `± digits * 10 ^ exponent`. -/
def ofDecimal (negative : Bool) (digits : Nat) (exponent : Int) : Binary64 :=
  let magnitude := (digitCount digits : Int) + exponent
  if digits = 0 || magnitude < -330 then zero negative
  else if 310 < magnitude then .infinite negative
  else if exponent < 0 then ofQuotient negative digits (Nat.pow 10 exponent.natAbs)
  else ofQuotient negative (digits * Nat.pow 10 exponent.natAbs) 1

/-- The floating point number nearest to an integer, unless the integer is too large for any. -/
def ofInt? (n : Int) : Option Binary64 :=
  match ofQuotient (decide (n < 0)) n.natAbs 1 with
  | .finite s m e => some (.finite s m e)
  | _ => none

/-- The value in units of the smallest positive number, for a finite number. -/
def units? : Binary64 → Option Int
  | .finite negative m e =>
    let n : Int := ((m * Nat.pow 2 (e - minExponent).toNat : Nat) : Int)
    some (if negative then -n else n)
  | _ => none

/-- Whether one number is at most another; nothing is comparable with a number that is none. -/
def le : Binary64 → Binary64 → Bool
  | .nan, _ => false
  | _, .nan => false
  | .infinite s, b => s || b == .infinite false
  | _, .infinite s => !s
  | a, b =>
    match a.units?, b.units? with
    | some x, some y => x ≤ y
    | _, _ => false

/-- Whether two numbers have one value; a number that is none differs from itself. -/
def same (a b : Binary64) : Bool :=
  a.le b && b.le a

/-- Whether a number is zero. -/
def isZero : Binary64 → Bool
  | .finite _ m _ => m == 0
  | _ => false

/-- The integer part, for a finite number. -/
def truncate? : Binary64 → Option Int
  | .finite negative m e =>
    let n : Int := ((if e < 0 then m / Nat.pow 2 e.natAbs else m * Nat.pow 2 e.natAbs : Nat) : Int)
    some (if negative then -n else n)
  | _ => none

/-- The least integer that is not below the number, for a finite number. -/
def ceiling? : Binary64 → Option Int
  | .finite negative m e =>
    let signed : Int := if negative then -(m : Int) else m
    let power : Nat := Nat.pow 2 e.natAbs
    some (if e < 0 then -(-signed / (power : Int)) else signed * power)
  | _ => none

/-! ## Reading -/

/-- The digits of a decimal numeral: their value and how many of them stand behind the point. -/
structure DecimalDigits where
  value : Nat
  count : Nat
  places : Nat
  rest : List Char

/-- Continue a run of decimal digits that may be empty; an underscore stands between two of them. -/
def digitsOf (value count : Nat) : List Char → Option DigitRun
  | [] => some ⟨value, count, []⟩
  | '_' :: cs =>
    match cs with
    | [] => none
    | c :: rest =>
      match asciiDigit? c with
      | some d => if count = 0 then none else digitsOf (value * 10 + d) (count + 1) rest
      | none => none
  | c :: cs =>
    match asciiDigit? c with
    | some d => digitsOf (value * 10 + d) (count + 1) cs
    | none => some ⟨value, count, c :: cs⟩

/-- The digits of a numeral before and behind its point; there has to be one. -/
def decimalDigits? (cs : List Char) : Option DecimalDigits := do
  let whole ← digitsOf 0 0 cs
  match whole.rest with
  | '.' :: rest =>
    let part ← digitsOf 0 0 rest
    if whole.count + part.count = 0 then none
    else some ⟨whole.value * Nat.pow 10 part.count + part.value, whole.count + part.count,
      part.count, part.rest⟩
  | rest => if whole.count = 0 then none else some ⟨whole.value, whole.count, 0, rest⟩

/-- The exponent behind the digits, zero if there is none, and the rest. -/
def exponentPart? : List Char → Option (Int × List Char)
  | e :: cs =>
    if e == 'e' || e == 'E' then
      let (negative, digits) := splitSign cs
      match unsigned .decimal digits with
      | some run => some (if negative then -(run.value : Int) else run.value, run.rest)
      | none => none
    else some (0, e :: cs)
  | [] => some (0, [])

/-- Read a floating point number: a decimal numeral, an infinity, or the number that is none. -/
def read? (s : String) : Option Binary64 :=
  let (negative, body) := splitSign (trim isNumeralBlank (s.toList.map plain))
  let word := lowerAscii body
  if word == "inf".toList || word == "infinity".toList then some (.infinite negative)
  else if word == "nan".toList then some .nan
  else do
    let digits ← decimalDigits? body
    let (exponent, rest) ← exponentPart? digits.rest
    if rest.isEmpty then some (ofDecimal negative digits.value (exponent - digits.places)) else none
where
  /-- ASCII letters in lower case. -/
  lowerAscii (cs : List Char) : List Char :=
    cs.map fun c => if 'A' ≤ c ∧ c ≤ 'Z' then Char.ofNat (c.toNat + 32) else c

/-! ## Printing -/

/-- Digits `d` and an exponent `k`, standing for `0.d * 10 ^ k`. -/
structure Shortest where
  digits : Nat
  point : Int
  deriving DecidableEq, Repr

/-- How far `digits * 10 ^ exponent` lies from `num / den`, as a natural over `den` times the power
of ten that makes both whole. -/
def distance (num den digits : Nat) (exponent : Int) : Nat :=
  let power := Nat.pow 10 exponent.natAbs
  let (a, b) := if exponent < 0 then (num * power, digits * den) else (num, digits * den * power)
  (a - b) + (b - a)

/-- The numeral of `count` digits nearest to `num / den` among those that read as the given number,
where the value has `point` digits before its point. -/
def numeralOfLength (target : Binary64) (num den : Nat) (point : Int) (count : Nat) :
    Option Nat :=
  let exponent := point - count
  let power := Nat.pow 10 exponent.natAbs
  let low := if exponent < 0 then num * power / den else num / (den * power)
  let reads (d : Nat) : Bool := d != 0 && ofDecimal false d exponent == target
  match reads low, reads (low + 1) with
  | false, false => none
  | true, false => some low
  | false, true => some (low + 1)
  | true, true =>
    let below := distance num den low exponent
    let above := distance num den (low + 1) exponent
    if below < above || (below == above && low % 2 == 0) then some low else some (low + 1)

/-- The number of digits before the point of the quotient of two positive naturals: the `k` with
`10 ^ (k - 1) ≤ num / den < 10 ^ k`. -/
def pointOf (num den : Nat) : Int :=
  if den ≤ num then digitCount (num / den)
  else
    -- The quotient of `10 ^ k * num` by `den` has one digit for the first `k` with one above zero.
    let zeros := (digitCount den - digitCount num : Nat)
    if den ≤ num * Nat.pow 10 zeros then 1 - (zeros : Int) else -(zeros : Int)

/-- The shortest numeral that reads as a positive finite number. -/
def shortest (m : Nat) (e : Int) : Shortest :=
  let num := if e < 0 then m else m * Nat.pow 2 e.natAbs
  let den := if e < 0 then Nat.pow 2 e.natAbs else 1
  let point := pointOf num den
  let target := Binary64.finite false m e
  match (List.range 17).findSome? fun i =>
      (numeralOfLength target num den point (i + 1)).map (·, i + 1) with
  | some (d, count) =>
    -- A numeral rounded up to the next power of ten has one digit more than was asked for.
    let shift : Int := (digitCount d : Int) - count
    ⟨stripZeros d, point + shift⟩
  | none => ⟨m, point⟩
where
  /-- A positive natural without its trailing zeros. -/
  stripZeros (d : Nat) : Nat :=
    (List.range (digitCount d)).foldl (fun d _ => if d % 10 = 0 then d / 10 else d) d

/-- A natural as decimal digits. -/
def decimalText (n : Nat) : List Char :=
  Nat.toDigits 10 n

/-- Digits with a decimal point: positional while the point stands at most 16 digits to the right of
the first digit and at most 3 zeros to the left of it, with an exponent of at least two digits
otherwise. -/
def layout (sh : Shortest) : List Char :=
  let ds := decimalText sh.digits
  let count : Int := ds.length
  if -4 < sh.point ∧ sh.point ≤ 16 then
    if sh.point ≤ 0 then '0' :: '.' :: List.replicate sh.point.natAbs '0' ++ ds
    else if count ≤ sh.point then ds ++ List.replicate (sh.point - count).toNat '0' ++ ['.', '0']
    else ds.take sh.point.toNat ++ '.' :: ds.drop sh.point.toNat
  else
    let fraction := match ds with
      | [d] => [d]
      | d :: rest => d :: '.' :: rest
      | [] => []
    let e := sh.point - 1
    let digits := decimalText e.natAbs
    let padded := if digits.length < 2 then '0' :: digits else digits
    fraction ++ 'e' :: (if e < 0 then '-' else '+') :: padded

/-- The text of a floating point number. -/
def text : Binary64 → String
  | .finite negative m e =>
    let body := if m = 0 then ['0', '.', '0'] else layout (shortest m e)
    String.ofList (if negative then '-' :: body else body)
  | .infinite negative => if negative then "-inf" else "inf"
  | .nan => "nan"

end Binary64

end NodeLedger.Numeral
