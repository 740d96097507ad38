/-!
Character classes given by their boundaries: the code points, in ascending order, at which
membership changes, starting outside.  A class of many ranges is then one flat list of numbers, and
the membership test is a single walk along it.
-/

namespace NodeLedger.Text

/-- A set of characters, as the ascending code points at which membership changes. -/
structure CharClass where
  boundaries : List Nat
  deriving Repr

namespace CharClass

/-- Whether a number lies after an odd number of boundaries. -/
def within : List Nat → Nat → Bool
  | [], _ => false
  | b :: rest, n => if n < b then false else !(within rest n)

/-- Whether a character belongs to the class. -/
def contains (cls : CharClass) (c : Char) : Bool :=
  within cls.boundaries c.toNat

end CharClass

end NodeLedger.Text
