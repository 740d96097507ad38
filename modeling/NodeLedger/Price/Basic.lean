import NodeLedger.Amount
import NodeLedger.Decimal.Arithmetic

/-!
Prices of a bitcoin, and what an amount is worth at a price.

* `Price.lookup` gives the price at a time from a series of prices in ascending order of time: the
  last one quoted by then.  There are no prices in between, and none before the first.
* `fiatValue` is the value of an amount in thousandths of a satoshi.
-/

namespace NodeLedger

/-- The currency in which the services quote prices. -/
def dollar : String := "USD"

/-- The price of a bitcoin at a time. -/
structure Price where
  timestamp : Int
  perBitcoin : Decimal
  currency : String := dollar
  deriving DecidableEq, Repr

namespace Price

/-- The fields of a price in a report. -/
def reportFields (price : Price) : List (String × Value) :=
  [("price", .text price.perBitcoin.text), ("price_timestamp", .int price.timestamp),
   ("currency", .text price.currency)]

/-- The last price of a series that is quoted at or before a time, of those in front of the first
that is quoted later. -/
def lastBy (prices : List Price) (time : Int) : Option Price :=
  (prices.takeWhile fun price => decide (price.timestamp ≤ time)).getLast?

/-- The price at a time. -/
def lookup (prices : List Price) (time : Int) : Except Failure Price :=
  if prices.isEmpty then .error (.price .noPrices)
  else match lastBy prices time with
    | some price => .ok price
    | none => .error (.price (.outOfRange time))

/-- Prices in the order of their times; those of one time stay in the order given. -/
def sort (prices : List Price) : List Price :=
  prices.mergeSort fun p q => decide (p.timestamp ≤ q.timestamp)

end Price

/-- The value of an amount in thousandths of a satoshi at a price per bitcoin. -/
def fiatValue (perBitcoin : Decimal) (msat : Int) : Except Failure Decimal :=
  match perBitcoin.div Amount.perBitcoin with
  | .error fault => .error (.decimal fault)
  | .ok perMsat =>
    match perMsat.mul (Decimal.ofInt msat) with
    | .error fault => .error (.decimal fault)
    | .ok value => .ok value

end NodeLedger
