import NodeLedger.Decimal.Basic

/-!
Reading decimals.  Blanks around the numeral and underscores anywhere in it count for nothing, its
digits may be those of any script, and every digit is kept.  A numeral whose exponent leaves the
range of representable ones is refused rather than rounded.
-/

namespace NodeLedger.Decimal

open NodeLedger.Text NodeLedger.Numeral

/-- The largest exponent that a first digit can have. -/
def greatestExponent : Int := 999999999999999999

/-- The least exponent that a last digit can have. -/
def leastExponent : Int := -1999999999999999997

/-- A digit of any script as an ASCII digit; other characters in lower case. -/
def numeralChar (c : Char) : Char :=
  match digitValue? c with
  | some d => Char.ofNat (48 + d)
  | none => if 'A' ≤ c ∧ c ≤ 'Z' then Char.ofNat (c.toNat + 32) else c

/-- The value of a run of ASCII digits, and how many they are. -/
def digitsValue (cs : List Char) : Nat × Nat :=
  cs.foldl (fun (v, n) c => (v * 10 + (c.toNat - 48), n + 1)) (0, 0)

/-- The value of a non-empty text of ASCII digits. -/
def wholeNumber? (cs : List Char) : Option Nat :=
  if !cs.isEmpty && cs.all isAsciiDigit then some (digitsValue cs).1 else none

/-- The exponent written behind the digits. -/
def exponent? : List Char → Option Int
  | [] => some 0
  | 'e' :: cs =>
    let (negative, digits) := splitSign cs
    (wholeNumber? digits).map fun n => if negative then -(n : Int) else n
  | _ => none

/-- A finite number, if its exponents are in range. -/
def representable (negative : Bool) (coefficient : Nat) (exponent : Int) :
    Except DecimalFault Decimal :=
  let top := if coefficient = 0 then exponent else adjusted coefficient exponent
  if leastExponent ≤ exponent ∧ top ≤ greatestExponent then
    .ok (.finite negative coefficient exponent)
  else .error .invalid

/-- A number that begins with digits. -/
def finiteNumeral (negative : Bool) (cs : List Char) : Except DecimalFault Decimal :=
  let whole := cs.takeWhile isAsciiDigit
  let afterWhole := cs.dropWhile isAsciiDigit
  let (places, rest) : List Char × List Char := match afterWhole with
    | '.' :: more => (more.takeWhile isAsciiDigit, more.dropWhile isAsciiDigit)
    | _ => ([], afterWhole)
  let (coefficient, count) := digitsValue (whole ++ places)
  match exponent? rest with
  | some e => if count = 0 then .error .malformed
    else representable negative coefficient (e - places.length)
  | none => .error .malformed

/-- The payload behind the name of a number that is none. -/
def payload? (cs : List Char) : Option Nat :=
  if cs.all isAsciiDigit then some (digitsValue cs).1 else none

/-- Read a number without its sign, in lower case. -/
def readUnsigned (negative : Bool) (cs : List Char) : Except DecimalFault Decimal :=
  match cs with
  | 'n' :: 'a' :: 'n' :: digits => nanNumeral false digits
  | 's' :: 'n' :: 'a' :: 'n' :: digits => nanNumeral true digits
  | _ =>
    if cs = "inf".toList ∨ cs = "infinity".toList then .ok (.infinite negative)
    else finiteNumeral negative cs
where
  /-- A number that is none, with its payload. -/
  nanNumeral (signaling : Bool) (digits : List Char) : Except DecimalFault Decimal :=
    match payload? digits with
    | some n => .ok (.nan negative signaling n)
    | none => .error .malformed

/-- Read a decimal. -/
def read (s : String) : Except DecimalFault Decimal :=
  let cs := ((trim isBlank s.toList).filter (· != '_')).map numeralChar
  let (negative, body) := splitSign cs
  readUnsigned negative body

end NodeLedger.Decimal
