import NodeLedger.Value.Access

/-!
Reading JSON.  Integers have any number of digits up to 4300; a fraction becomes a decimal with all
its digits, or the nearest floating point number, as the caller chooses.  The words `NaN`,
`Infinity` and `-Infinity` are read as floating point numbers.  Of fields with one key the last one
counts, in the place of the first.

Current gaps:

* What is read is a text.  A body of bytes stands for the text that they spell in UTF-8; a body in
  UTF-16 or UTF-32, or with bytes that spell nothing, has none.  A byte order mark in front is
  refused, as it is in a text; in front of bytes it would be skipped.
* A surrogate that is half of no pair is no character.  U+FFFD stands in its place, so that keys that
  differ in such halves alone are taken for one.
-/

namespace NodeLedger.Json

open NodeLedger.Numeral NodeLedger.Text

/-- What the fractions of a JSON text become. -/
inductive Fractions where
  | decimal
  | float
  deriving DecidableEq, Repr

/-- Why a text is no JSON: a problem with the number of characters left where it arose, or a number
that cannot be represented. -/
inductive Fault where
  | at (problem : String) (left : Nat)
  | integerTooLong (digits : Nat)
  | decimal (fault : DecimalFault)
  deriving Repr

/-- Whether a character may stand between the parts of a JSON text. -/
def isSpace (c : Char) : Bool :=
  c == ' ' || c == '\t' || c == '\n' || c == '\r'

/-- A text without its leading spaces. -/
def skip (cs : List Char) : List Char :=
  cs.dropWhile isSpace

/-- A problem at the beginning of the characters that are left. -/
def problem {α : Type} (text : String) (cs : List Char) : Except Fault α :=
  .error (.at text cs.length)

/-! ## Texts -/

/-- The number that four hexadecimal digits give, and what follows. -/
def fourHex? : List Char → Option (Nat × List Char)
  | a :: b :: c :: d :: rest => do
    let w ← hexDigit? a
    let x ← hexDigit? b
    let y ← hexDigit? c
    let z ← hexDigit? d
    some (((w * 16 + x) * 16 + y) * 16 + z, rest)
  | _ => none

/-- The character that one letter behind a backslash stands for. -/
def escapeChar? : Char → Option Char
  | '"' => some '"'
  | '\\' => some '\\'
  | '/' => some '/'
  | 'b' => some (Char.ofNat 8)
  | 'f' => some (Char.ofNat 12)
  | 'n' => some '\n'
  | 'r' => some '\r'
  | 't' => some '\t'
  | _ => none

/-- The second half of a pair of surrogates, if it follows. -/
def lowSurrogate? : List Char → Option (Nat × List Char)
  | '\\' :: 'u' :: rest =>
    match fourHex? rest with
    | some (n, rest) => if 0xdc00 ≤ n ∧ n ≤ 0xdfff then some (n, rest) else none
    | none => none
  | _ => none

/-- The characters of a text behind its opening quote.  `opened` is the number of characters left at
that quote, `fuel` at least the number of characters left now. -/
def textBody (fuel opened : Nat) (done : List Char) (cs : List Char) :
    Except Fault (String × List Char) :=
  match fuel with
  | 0 => .error (.at "Unterminated string starting at" opened)
  | fuel + 1 =>
    match cs with
    | [] => .error (.at "Unterminated string starting at" opened)
    | '"' :: rest => .ok (String.ofList done.reverse, rest)
    | '\\' :: [] => .error (.at "Unterminated string starting at" opened)
    | '\\' :: 'u' :: rest =>
      -- The four digits must be followed by at least the closing quote.
      if rest.length ≤ 4 then .error (.at "Invalid \\uXXXX escape" (rest.length + 1)) else
        match fourHex? rest with
        | none => .error (.at "Invalid \\uXXXX escape" (rest.length + 1))
        | some (n, after) =>
          if 0xd800 ≤ n ∧ n ≤ 0xdbff then
            match lowSurrogate? after with
            | some (m, after) =>
              textBody fuel opened
                (Char.ofNat (0x10000 + (n - 0xd800) * 0x400 + (m - 0xdc00)) :: done) after
            | none => textBody fuel opened (Char.ofNat 0xfffd :: done) after
          else if 0xdc00 ≤ n ∧ n ≤ 0xdfff then
            textBody fuel opened (Char.ofNat 0xfffd :: done) after
          else textBody fuel opened (Char.ofNat n :: done) after
    | '\\' :: c :: rest =>
      match escapeChar? c with
      | some x => textBody fuel opened (x :: done) rest
      | none => problem "Invalid \\escape" ('\\' :: c :: rest)
    | c :: rest =>
      if c.toNat < 32 then problem "Invalid control character at" (c :: rest)
      else textBody fuel opened (c :: done) rest

/-! ## Numbers -/

/-- The characters of a number: its whole part, its fraction and its exponent. -/
structure NumberText where
  whole : List Char
  fraction : List Char
  exponent : List Char

/-- The whole part of a number: a zero, or digits that do not begin with one. -/
def wholePart? : List Char → Option (List Char × List Char)
  | '0' :: rest => some (['0'], rest)
  | c :: rest =>
    if isAsciiDigit c then some (c :: rest.takeWhile isAsciiDigit, rest.dropWhile isAsciiDigit)
    else none
  | [] => none

/-- A point with at least one digit behind it, if there is one. -/
def fractionPart (cs : List Char) : List Char × List Char :=
  match cs with
  | '.' :: c :: rest =>
    if isAsciiDigit c then
      ('.' :: c :: rest.takeWhile isAsciiDigit, rest.dropWhile isAsciiDigit)
    else ([], cs)
  | _ => ([], cs)

/-- The letter e with a sign, if there is one, and at least one digit behind it. -/
def exponentPart (cs : List Char) : List Char × List Char :=
  match cs with
  | e :: rest =>
    if e == 'e' || e == 'E' then
      let (sign, digits) : List Char × List Char := match rest with
        | '+' :: more => (['+'], more)
        | '-' :: more => (['-'], more)
        | more => ([], more)
      let run := digits.takeWhile isAsciiDigit
      if run.isEmpty then ([], cs) else (e :: sign ++ run, digits.dropWhile isAsciiDigit)
    else ([], cs)
  | [] => ([], [])

/-- A number without its sign. -/
def numberText? (cs : List Char) : Option (NumberText × List Char) := do
  let (whole, rest) ← wholePart? cs
  let (fraction, rest) := fractionPart rest
  let (exponent, rest) := exponentPart rest
  some (⟨whole, fraction, exponent⟩, rest)

/-- The value of a number. -/
def numberValue (fractions : Fractions) (negative : Bool) (n : NumberText) : Except Fault Value :=
  if n.fraction.isEmpty && n.exponent.isEmpty then
    if 4300 < n.whole.length then .error (.integerTooLong n.whole.length) else
      let v := (Decimal.digitsValue n.whole).1
      .ok (.int (if negative then -(v : Int) else v))
  else
    let digits := n.whole ++ n.fraction ++ n.exponent
    let written := String.ofList (if negative then '-' :: digits else digits)
    match fractions with
    | .decimal =>
      match Decimal.read written with
      | .ok d => .ok (.decimal d)
      | .error fault => .error (.decimal fault)
    | .float => .ok (.float ((Binary64.read? written).getD .nan))

/-- A number at the beginning of a text. -/
def number (fractions : Fractions) (cs : List Char) : Except Fault (Value × List Char) :=
  let (negative, body) : Bool × List Char := match cs with
    | '-' :: rest => (true, rest)
    | _ => (false, cs)
  match numberText? body with
  | none => problem "Expecting value" cs
  | some (n, rest) => return (← numberValue fractions negative n, rest)

/-! ## Values -/

/-- The words that are values. -/
def words : List (List Char × Value) :=
  [("null".toList, .null), ("true".toList, .bool true), ("false".toList, .bool false),
    ("NaN".toList, .float .nan), ("Infinity".toList, .float (.infinite false)),
    ("-Infinity".toList, .float (.infinite true))]

/-- A word or a number at the beginning of a text. -/
def plainValue (fractions : Fractions) (cs : List Char) : Except Fault (Value × List Char) :=
  match words.find? (·.1.isPrefixOf cs) with
  | some (word, v) => .ok (v, cs.drop word.length)
  | none => number fractions cs

mutual

/-- A value at the beginning of a text.  Every step into a list or an object and on to its next part
takes one unit of fuel. -/
def value (fractions : Fractions) (fuel : Nat) (cs : List Char) :
    Except Fault (Value × List Char) :=
  match fuel with
  | 0 => problem "Expecting value" cs
  | fuel + 1 =>
    match cs with
    | '"' :: rest => do
      let (s, rest) ← textBody (rest.length + 1) cs.length [] rest
      return (.text s, rest)
    | '[' :: rest =>
      match skip rest with
      | ']' :: after => .ok (.list [], after)
      | body => items fractions fuel [] body
    | '\x7b' :: rest =>
      match skip rest with
      | '\x7d' :: after => .ok (.object [], after)
      | body => fields fractions fuel [] body
    | cs => plainValue fractions cs

/-- The items of a list from the next one on, up to the closing bracket. -/
def items (fractions : Fractions) (fuel : Nat) (done : List Value) (cs : List Char) :
    Except Fault (Value × List Char) :=
  match fuel with
  | 0 => problem "Expecting value" cs
  | fuel + 1 => do
    let (v, rest) ← value fractions fuel cs
    match skip rest with
    | ']' :: after => return (.list (v :: done).reverse, after)
    | ',' :: after => items fractions fuel (v :: done) (skip after)
    | after => problem "Expecting ',' delimiter" after

/-- The fields of an object from the next one on, up to the closing brace. -/
def fields (fractions : Fractions) (fuel : Nat) (done : List (String × Value)) (cs : List Char) :
    Except Fault (Value × List Char) :=
  match fuel with
  | 0 => problem "Expecting value" cs
  | fuel + 1 =>
    match cs with
    | '"' :: body => do
      let (key, rest) ← textBody (body.length + 1) cs.length [] body
      match skip rest with
      | ':' :: after =>
        let (v, rest) ← value fractions fuel (skip after)
        let done := Table.insert done key v
        match skip rest with
        | '\x7d' :: after => return (.object done, after)
        | ',' :: after => fields fractions fuel done (skip after)
        | after => problem "Expecting ',' delimiter" after
      | after => problem "Expecting ':' delimiter" after
    | cs => problem "Expecting property name enclosed in double quotes" cs

end

/-- A whole text with one value in it. -/
def document (fractions : Fractions) (cs : List Char) : Except Fault Value :=
  match cs with
  | '\ufeff' :: _ => .error (.at "Unexpected UTF-8 BOM (decode using utf-8-sig)" cs.length)
  | _ => do
    let (v, rest) ← value fractions (2 * cs.length + 2) (skip cs)
    match skip rest with
    | [] => return v
    | rest => .error (.at "Extra data" rest.length)

/-- The place where so many characters of a text are left: line and column count from one. -/
def locate (cs : List Char) (what : String) (left : Nat) : JsonFault :=
  let offset := cs.length - left
  let before := cs.take offset
  ⟨what, before.count '\n' + 1, (before.reverse.takeWhile (· != '\n')).length + 1, offset⟩

/-- Read a JSON text. -/
def read (fractions : Fractions) (s : String) : Except Failure Value :=
  let cs := s.toList
  match document fractions cs with
  | .ok v => .ok v
  | .error (.at what left) => .error (.json (locate cs what left))
  | .error (.integerTooLong digits) => .error (.value (.integerTooLong digits))
  | .error (.decimal fault) => .error (.decimal fault)

end NodeLedger.Json
