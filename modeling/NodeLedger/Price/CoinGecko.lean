import NodeLedger.Calendar
import NodeLedger.Json.Reader
import NodeLedger.Price.Basic
import NodeLedger.Price.Retry
import NodeLedger.Period

/-!
Prices from CoinGecko.  A query asks for the prices of a number of days up to now.  The prices of
the last 90 days are hourly and older ones daily, so a period that holds both is asked for in two
parts.
-/

namespace NodeLedger.CoinGecko

/-- The address of the price history. -/
def historyUrl : String := "https://api.coingecko.com/api/v3/coins/bitcoin/market_chart"

/-- The days back from now for which prices are hourly. -/
def hourlyDays : Int := 89

/-- A price: a pair of its time in milliseconds and its amount. -/
def readPrice (item : Value) : Except Failure Price := do
  let count ← item.size
  if count ≠ 2 then throw (.value (.pricePairLength count))
  let milliseconds ← (← item.part 0).toInteger
  return { timestamp := milliseconds / 1000, perBitcoin := ← (← item.part 1).toDecimal }

/-- The prices of an answer. -/
def readPrices (body : String) : Except Failure (List Price) := do
  let document ← Json.read .decimal body
  (← ((← document.field "prices").orElse (.list [])).parts).mapM readPrice

/-- The time up to which prices are daily. -/
def hourlyFrom (now : Int) : Int :=
  now - hourlyDays * Calendar.day

/-- The parts of a period with daily and with hourly prices. -/
def ranges (now : Int) (period : Period) : List Period :=
  let cut := hourlyFrom now
  (if period.start < cut then [⟨period.start, min period.stop cut⟩] else []) ++
    if cut < period.stop then [⟨max period.start cut, period.stop⟩] else []

/-- The days back from now that reach to a time before the given one. -/
def lag (now start : Int) : Int :=
  (now - start) / Calendar.day + 1

/-- Ask for the prices of the last days. -/
def query (settings : QuerySettings) (days : Int) : Action String :=
  settings.fetch "coingecko" historyUrl [("vs_currency", .text "usd"), ("days", .int days)]

/-- The prices of a part of a period; those quoted after its end are left out. -/
def rangePrices (settings : QuerySettings) (now : Int) (range : Period) : Action (List Price) := do
  let found ← settings.retry.run (query settings (lag now range.start)) readPrices
  return found.filter fun price => decide (price.timestamp ≤ range.stop)

/-- The prices of a period. -/
def prices (settings : QuerySettings) (period : Period) : Action (List Price) := do
  let now ← Action.now
  return (← (ranges now period).mapM (rangePrices settings now)).flatten

end NodeLedger.CoinGecko
