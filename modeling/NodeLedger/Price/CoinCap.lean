import NodeLedger.Json.Reader
import NodeLedger.Price.Config
import NodeLedger.Price.Retry
import NodeLedger.Price.Window

/-!
Prices and exchange rates from CoinCap.  The finer the granularity, the shorter the period that one
query may cover; longer periods are split into windows.
-/

namespace NodeLedger.CoinCap

open NodeLedger.Numeral

/-- The address of the price history. -/
def historyUrl : String := "https://api.coincap.io/v2/assets/bitcoin/history"

/-- The address of the exchange rates. -/
def ratesUrl : String := "https://api.coincap.io/v2/rates"

/-- The items of the field `data` of an answer. -/
def dataItems (body : String) : Except Failure (List Value) := do
  let document ← Json.read .decimal body
  ((← document.field "data").orElse (.list [])).parts

/-- A price of the history: its time is in milliseconds. -/
def readPrice (item : Value) : Except Failure Price := do
  let milliseconds ← (← item.required "time").toInteger
  return { timestamp := milliseconds / 1000,
           perBitcoin := ← (← item.required "priceUsd").toDecimal }

/-- The prices of an answer. -/
def readPrices (body : String) : Except Failure (List Price) := do
  (← dataItems body).mapM readPrice

/-! ## Price history -/

/-- Ask for the prices of a window. -/
def query (settings : QuerySettings) (granularity : Granularity) (window : Period) :
    Action String :=
  settings.fetch "coincap" historyUrl
    [("interval", .text granularity.label), ("start", .int (window.start * 1000)),
     ("end", .int (window.stop * 1000))]

/-- The queries that a duration takes: the quotient of the durations, which is a floating point
number, rounded up.  There are none if the quotient is too large for such a number. -/
def queryCount? (granularity : Granularity) (duration : Int) : Option Int :=
  (Binary64.ofQuotient (decide (duration < 0)) duration.natAbs
    granularity.maximumQuery.natAbs).ceiling?

/-- Check that a period can be covered by the queries allowed. -/
def checkReach (granularity : Granularity) (period : Period) : Except Failure Unit :=
  let duration := max (period.stop - period.start) granularity.aggregation
  match queryCount? granularity duration with
  | none => .error (.oversize .quotient)
  | some count =>
    if maxQueries < count then .error (.request (.periodTooLong granularity.label)) else .ok ()

/-- A period begun one price earlier, so that a price precedes its start. -/
def extended (granularity : Granularity) (period : Period) : Period :=
  ⟨period.start - granularity.aggregation, period.stop⟩

/-- The prices of a period. -/
def prices (settings : QuerySettings) (granularity : Option Granularity) (period : Period) :
    Action (List Price) := do
  match granularity with
  | none => throw (.shape (.missingMember "NoneType" "label"))
  | some granularity =>
    if granularity ∉ Granularity.all then
      throw (.request (.unknownGranularity granularity.label))
    checkReach granularity period
    let found ← (extended granularity period).gather granularity.maximumQuery fun window =>
      settings.retry.run (query settings granularity window) readPrices
    return Price.sort found

/-! ## Exchange rates -/

/-- Exchange rates in dollars by currency. -/
abbrev Rates := Table String Decimal

/-- Rates with that of an item, if it has both a symbol and a rate. -/
def addItem (rates : Rates) (item : Value) : Except Failure Rates := do
  let symbol ← item.field "symbol"
  let rate ← item.field "rateUsd"
  if symbol.truthy && rate.truthy then
    let rate ← rate.toDecimal
    match symbol with
    | .text s => return Table.insert rates (Text.upper s) rate
    | v => throw (.shape (.missingMember v.kind "upper"))
  else return rates

/-- The exchange rates of an answer. -/
def readRates (body : String) : Except Failure Rates := do
  (← dataItems body).foldlM addItem []

/-- The dollars that one unit of a currency is worth. -/
def dollarRate (settings : QuerySettings) (currency : String) : Action Decimal := do
  let rates ← settings.retry.run (Http.fetch ratesUrl (.object []) settings.timeout) readRates
  match Table.get? rates (Text.upper currency) with
  | some rate =>
    if rate.isZero then throw (.price (.unsupportedCurrency currency)) else return rate
  | none => throw (.price (.unsupportedCurrency currency))

end NodeLedger.CoinCap
