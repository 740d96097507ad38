import NodeLedger.Value

/-!
Keys: what values are found by.  Lists and objects are no keys.  Numbers of one value are one key,
with true as one and false as zero.

* `Value.key?` gives the key that a value is, and `Key.precedes?` compares two of one kind.
-/

namespace NodeLedger

open NodeLedger.Numeral

/-- What a value is found by. -/
inductive Key where
  | null
  /-- A number, in units of the least positive floating point number. -/
  | number (units : Int)
  | infinite (negative : Bool)
  | nan
  | decimal (d : Decimal)
  | text (s : String)
  deriving DecidableEq, Repr

/-- Whether one key comes before another, if both are numbers or both are texts.  What is not a
number, though it stands among numbers, comes neither before one nor behind it. -/
def Key.precedes? : Key → Key → Option Bool
  | text s, text t => some (decide (s < t))
  | number m, number n => some (decide (m < n))
  | infinite negative, number _ => some negative
  | number _, infinite negative => some !negative
  | infinite a, infinite b => some (a && !b)
  | nan, number _ | nan, infinite _ | nan, nan | number _, nan | infinite _, nan => some false
  | _, _ => none

namespace Value

/-- The key that a value is, if it is one. -/
def key? : Value → Option Key
  | null => some .null
  | bool b => some (.number (if b then oneInUnits else 0))
  | int n => some (.number (n * oneInUnits))
  | float (.infinite negative) => some (.infinite negative)
  | float .nan => some .nan
  | float x => x.units?.map Key.number
  | decimal d => some (.decimal d)
  | text s => some (.text s)
  | list _ => none
  | object _ => none

/-- A value that is found by a text is the text. -/
theorem eq_text_of_key? {v : Value} {text : String} (h : v.key? = some (.text text)) :
    v = .text text := by
  match v with
  | .text _ =>
    cases h
    rfl
  | .float (.finite negative m e) => simp [key?, Binary64.units?] at h
  | .null | .bool _ | .int _ | .float (.infinite _) | .float .nan | .decimal _ =>
    simp [key?] at h
  | .list _ | .object _ => simp [key?] at h

end Value

end NodeLedger
