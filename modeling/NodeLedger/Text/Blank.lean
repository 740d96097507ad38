/-!
Blank characters.  Two sets are in use: `isBlank` is every space and line separator of Unicode,
`isNumeralBlank` is the part of it that may stand around a written number, which leaves out the
four ASCII information separators.
-/

namespace NodeLedger.Text

/-- A space, a tabulator, or a separator of lines or of pieces of information. -/
def isBlank (c : Char) : Bool :=
  let n := c.toNat
  (9 ≤ n && n ≤ 13) || (28 ≤ n && n ≤ 32) || n == 0x85 || n == 0xa0 || n == 0x1680 ||
    (0x2000 ≤ n && n ≤ 0x200a) || n == 0x2028 || n == 0x2029 || n == 0x202f || n == 0x205f ||
    n == 0x3000

/-- A blank that may stand before or after a written number. -/
def isNumeralBlank (c : Char) : Bool :=
  isBlank c && !(28 ≤ c.toNat && c.toNat ≤ 31)

/-- A text without the leading and trailing characters of a class. -/
def trim (drop : Char → Bool) (cs : List Char) : List Char :=
  ((cs.dropWhile drop).reverse.dropWhile drop).reverse

end NodeLedger.Text
