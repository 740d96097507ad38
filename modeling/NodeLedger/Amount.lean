import NodeLedger.Value.Access

/-!
Amounts in thousandths of a satoshi, as the node writes them: an integer, or a text that is a
numeral with or without its unit.  What is neither counts as nothing.

A truth value in place of an amount counts as one or nothing and is kept as it is, so that it is
written back the way it came.

A client of the node may wrap an amount in an object of its own.  Such an object counts what it
holds, so that in what the node tells an integer stands for it.
-/

namespace NodeLedger

/-- An amount in thousandths of a satoshi, as it was given. -/
inductive Amount where
  | msat (count : Int)
  | flag (given : Bool)
  deriving DecidableEq, Repr, Inhabited

namespace Amount

open NodeLedger.Numeral

/-- What an amount counts. -/
def count : Amount → Int
  | msat n => n
  | flag given => if given then 1 else 0

/-- An amount as it was given. -/
def toValue : Amount → Value
  | msat n => .int n
  | flag given => .bool given

/-- The text of an amount. -/
def text (a : Amount) : String :=
  a.toValue.display

/-- A text without the unit at its end. -/
def withoutUnit (cs : List Char) : List Char :=
  if "msat".toList.isSuffixOf cs then cs.take (cs.length - 4) else cs

/-- The amount that a value gives. -/
def ofValue : Value → Amount
  | .int n => .msat n
  | .bool given => .flag given
  | .text s =>
    match readInteger .decimal (String.ofList (withoutUnit s.toList)) with
    | .ok n => .msat n
    | .error _ => .msat 0
  | _ => .msat 0

/-- What may be given for an amount: a value, or an object of the client that holds one. -/
inductive Given where
  | plain (v : Value)
  | wrapped (held : Value)

/-- The amount that is given.  What an object holds has to be a number or a numeral. -/
def ofGiven : Given → Except Failure Amount
  | .plain v => .ok (ofValue v)
  | .wrapped held => msat <$> held.toInteger

/-- An object that holds an integer gives the amount that the integer gives. -/
theorem ofGiven_wrapped_int (n : Int) : ofGiven (.wrapped (.int n)) = ofGiven (.plain (.int n)) :=
  rfl

/-- The amount in a field, nothing if the field is not there. -/
def field (v : Value) (key : String) : Except Failure Amount :=
  return ofValue (← v.fieldD key (.int 0))

/-- The thousandths of a satoshi of a bitcoin. -/
def perBitcoin : Decimal := .finite false 100000000000 0

/-- The sum of some amounts. -/
def total (amounts : List Int) : Int :=
  amounts.foldr (· + ·) 0

/-- Whole satoshis, rounded down. -/
def sats (msat : Int) : Int :=
  msat / 1000

/-- Satoshis as an amount. -/
def ofSats (sats : Int) : Int :=
  sats * 1000

/-- Satoshis as an amount that is taken away. -/
def ofSpentSats (sats : Int) : Int :=
  sats * -1000

end Amount

end NodeLedger
