import NodeLedger.Calendar
import NodeLedger.Json.Reader
import NodeLedger.Price.Config
import NodeLedger.Price.Retry
import NodeLedger.Price.Window

/-!
Prices from Coinbase: the closing prices of candles, of which a query returns at most 300.
-/

namespace NodeLedger.Coinbase

/-- The address of the candles. -/
def candlesUrl : String := "https://api.exchange.coinbase.com/products/BTC-USD/candles"

/-- The most candles of one answer. -/
def candleCap : Int := 300

/-- The closing price of a candle, which is a row of time, low, high, open, close and volume; none
for a shorter row. -/
def readCandle (row : Value) : Except Failure (Option Price) := do
  if (← row.size) < 5 then return none
  let timestamp ← (← row.part 0).toInteger
  return some { timestamp, perBitcoin := ← (← row.part 4).toDecimal }

/-- The prices of an answer. -/
def readPrices (body : String) : Except Failure (List Price) := do
  let document ← Json.read .decimal body
  return (← (← (document.orElse (.list [])).parts).mapM readCandle).filterMap id

/-- Ask for the candles of a window. -/
def query (settings : QuerySettings) (granularity : Granularity) (window : Period) :
    Action String := do
  let first ← Calendar.timeText window.start
  let last ← Calendar.timeText window.stop
  settings.fetch "coinbase" candlesUrl
    [("start", .text first), ("end", .text last), ("granularity", .int granularity.aggregation)]

/-- A period begun at the last beginning of a candle, so that a candle precedes its start. -/
def aligned (granularity : Granularity) (period : Period) : Period :=
  ⟨period.start - period.start.fmod granularity.aggregation, period.stop⟩

/-- The longest period of one query. -/
def pageWidth (granularity : Granularity) : Int :=
  granularity.aggregation * candleCap

/-- The prices of a window. -/
def pagePrices (settings : QuerySettings) (granularity : Granularity) (window : Period) :
    Action (List Price) :=
  settings.retry.run (query settings granularity window) readPrices

/-- The prices of windows that never end.  Each takes an answer, so the services have none left
after as many windows as there are answers, and the next one fails. -/
def endlessPrices (settings : QuerySettings) (granularity : Granularity) (period : Period) :
    Action (List Price) := do
  let answers := (← get).replies.length
  let windows := period.firstWindows (pageWidth granularity) (answers + 1)
  return (← windows.mapM (pagePrices settings granularity)).flatten

/-- The prices of a period. -/
def prices (settings : QuerySettings) (granularity : Granularity) (period : Period) :
    Action (List Price) := do
  if granularity.aggregation = 0 then throw (.shape .zeroDivisor)
  let period := aligned granularity period
  if granularity.aggregation < 0 ∧ period.start < period.stop then
    endlessPrices settings granularity period
  else period.gather (pageWidth granularity) (pagePrices settings granularity)

end NodeLedger.Coinbase
