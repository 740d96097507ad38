import NodeLedger.Decimal.Printer
import NodeLedger.Text.Quoted

/-!
Values of the data that a node, a price service or a caller hands over: the values of JSON, with
integers and fractions told apart and fields in the order given.

A value is true unless it is null, false, a zero or empty.  Two values are the same if they have
the same text or the same numeric value, where true counts as one and false as zero, or if they are
made of the same parts; the order of the fields of an object does not matter.
-/

namespace NodeLedger

open NodeLedger.Numeral NodeLedger.Text

/-- A value of unknown shape. -/
inductive Value where
  | null
  | bool (b : Bool)
  | int (n : Int)
  | float (x : Binary64)
  | decimal (d : Decimal)
  | text (s : String)
  | list (items : List Value)
  | object (fields : List (String × Value))
  deriving Repr, Inhabited

namespace Value

/-- The name of a value's kind, as messages give it. -/
def kind : Value → String
  | null => "NoneType"
  | bool _ => "bool"
  | int _ => "int"
  | float _ => "float"
  | decimal _ => "decimal.Decimal"
  | text _ => "str"
  | list _ => "list"
  | object _ => "dict"

/-- Whether a value counts as true. -/
def truthy : Value → Bool
  | null => false
  | bool b => b
  | int n => n != 0
  | float x => !x.isZero
  | decimal d => !d.isZero
  | text s => !s.isEmpty
  | list items => !items.isEmpty
  | object fields => !fields.isEmpty

/-! ## Text -/

mutual

/-- The text of a value inside a message: texts are quoted. -/
def shown : Value → String
  | null => "None"
  | bool b => if b then "True" else "False"
  | int n => toString n
  | float x => x.text
  | decimal d => "Decimal('" ++ d.text ++ "')"
  | text s => quoted s
  | list items => "[" ++ ", ".intercalate (shownItems items) ++ "]"
  | object fields => "\x7b" ++ ", ".intercalate (shownFields fields) ++ "\x7d"

/-- The texts of the items of a list. -/
def shownItems : List Value → List String
  | [] => []
  | v :: rest => v.shown :: shownItems rest

/-- The texts of the fields of an object. -/
def shownFields : List (String × Value) → List String
  | [] => []
  | (key, v) :: rest => (quoted key ++ ": " ++ v.shown) :: shownFields rest

end

/-- The text of a value by itself: a text stands for itself. -/
def display : Value → String
  | text s => s
  | decimal d => d.text
  | v => v.shown

/-! ## Sameness -/

/-- One, in units of the least positive floating point number. -/
def oneInUnits : Int := ((Nat.pow 2 1074 : Nat) : Int)

/-- The numeric value of a number, in units of the least positive floating point number. -/
def units? : Value → Option Int
  | bool b => some (if b then oneInUnits else 0)
  | int n => some (n * oneInUnits)
  | float x => x.units?
  | _ => none

mutual

/-- Whether two values are the same. -/
def same : Value → Value → Bool
  | null, null => true
  | text a, text b => a == b
  | int a, int b => a == b
  | float a, float b => a.same b
  | list xs, list ys => sameItems xs ys
  | object fields, object others => fields.length == others.length && sameFields fields others
  | a, b =>
    match a.units?, b.units? with
    | some x, some y => x == y
    | _, _ => false

/-- Whether two lists have the same values, one by one. -/
def sameItems : List Value → List Value → Bool
  | [], [] => true
  | v :: rest, w :: others => v.same w && sameItems rest others
  | _, _ => false

/-- Whether each of some fields is found with the same value among others. -/
def sameFields : List (String × Value) → List (String × Value) → Bool
  | [], _ => true
  | (key, v) :: rest, others =>
    (match others.lookup key with
      | some w => v.same w
      | none => false) && sameFields rest others

end

/-- Whether a value is the given text. -/
def isText (s : String) : Value → Bool
  | text t => t == s
  | _ => false

end Value

end NodeLedger
