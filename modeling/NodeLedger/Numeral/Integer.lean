import NodeLedger.Text.Blank
import NodeLedger.Text.Digit

/-!
Written integers.  A numeral may have blanks around it, a sign in front, and single underscores
between its digits; its digits may be those of any script.  A decimal numeral has at most 4300
digits, a hexadecimal one has no bound and may begin with `0x`.
-/

namespace NodeLedger.Numeral

open NodeLedger.Text

/-- The ASCII character that a character of a numeral stands for: a digit of any script is its
value, a blank beyond ASCII is a space. -/
def plain (c : Char) : Char :=
  if c.toNat < 127 then c
  else if isNumeralBlank c then ' '
  else match digitValue? c with
    | some d => Char.ofNat (48 + d)
    | none => c

/-- The base in which an integer is written. -/
inductive Base where
  | decimal
  | hexadecimal
  deriving DecidableEq, Repr

namespace Base

/-- The number of digits of the base. -/
def size : Base → Nat
  | decimal => 10
  | hexadecimal => 16

/-- The value of a character as a digit of the base. -/
def digit? : Base → Char → Option Nat
  | decimal => asciiDigit?
  | hexadecimal => hexDigit?

/-- Whether the base bounds the length of a numeral by the given count of digits. -/
def tooLong : Base → Nat → Bool
  | decimal, count => 4300 < count
  | hexadecimal, _ => false

end Base

/-- Why a text is no integer. -/
inductive IntegerFault where
  | malformed
  | tooManyDigits (count : Nat)
  deriving DecidableEq, Repr

/-- A run of digits with its value, its length and the characters behind it. -/
structure DigitRun where
  value : Nat
  count : Nat
  rest : List Char
  deriving Repr

/-- Continue a run of digits; an underscore has to be followed by a digit. -/
def digitRun (base : Base) (value count : Nat) : List Char → Option DigitRun
  | [] => some ⟨value, count, []⟩
  | '_' :: cs =>
    match cs with
    | [] => none
    | c :: rest =>
      match base.digit? c with
      | some d => digitRun base (value * base.size + d) (count + 1) rest
      | none => none
  | c :: cs =>
    match base.digit? c with
    | some d => digitRun base (value * base.size + d) (count + 1) cs
    | none => some ⟨value, count, c :: cs⟩

/-- The digits of a numeral without sign and blanks, at least one. -/
def unsigned (base : Base) (cs : List Char) : Option DigitRun :=
  match cs with
  | [] => none
  | c :: rest =>
    match base.digit? c with
    | some d => digitRun base d 1 rest
    | none => none

/-- What stands behind the mark of a hexadecimal numeral, if it has one. -/
def afterMark : Base → List Char → List Char
  | .hexadecimal, '0' :: x :: rest =>
    if x == 'x' || x == 'X' then
      match rest with
      | '_' :: digits => digits
      | digits => digits
    else '0' :: x :: rest
  | _, cs => cs

/-- The sign in front of a numeral, `true` for a minus, and what follows it. -/
def splitSign : List Char → Bool × List Char
  | '-' :: cs => (true, cs)
  | '+' :: cs => (false, cs)
  | cs => (false, cs)

/-- Read an integer. -/
def readInteger (base : Base) (s : String) : Except IntegerFault Int :=
  let (negative, body) := splitSign ((s.toList.map plain).dropWhile isNumeralBlank)
  match unsigned base (afterMark base body) with
  | none => .error .malformed
  | some run =>
    if base.tooLong run.count then .error (.tooManyDigits run.count)
    else if run.rest.all isNumeralBlank then
      .ok (if negative then -(run.value : Int) else run.value)
    else .error .malformed

end NodeLedger.Numeral
