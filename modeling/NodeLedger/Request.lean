import NodeLedger.Category
import NodeLedger.Period
import NodeLedger.Price.Config
import NodeLedger.Settings

/-!
Requests for prices and for reports, checked against the settings.

* `PriceRequest.config` gives the prices to use for a period: what the caller asks for, else what
  the settings say, else the best granularity for the period.
* `ReportRequest.ofParams` checks everything that the caller of a report gives.
-/

namespace NodeLedger

open NodeLedger.Text

/-! ## Prices -/

/-- Whether a fault lies in a price point itself. -/
def isPointFault : Failure → Bool
  | .value _ => true
  | .shape (.missingMember _ _) => false
  | .shape .indexOutOfRange => false
  | .shape _ => true
  | .decimal .malformed => true
  | .decimal .invalid => true
  | _ => false

/-- Texts in upper case; other values have no case. -/
def upperText : Value → Except Failure String
  | .text s => .ok (upper s)
  | v => .error (.shape (.missingMember v.kind "upper"))

namespace Price

/-- A price given by the caller; without a currency it is in the one given. -/
def ofPoint (currency : String) (point : Value) : Except Failure Price := do
  let timestamp ← (← point.required "timestamp").toInteger
  let perBitcoin ← (← point.required "price").toDecimal
  let given ← point.field "currency"
  return { timestamp, perBitcoin, currency := upper (given.orElse (.text currency)).display }

/-- A price given by the caller, a fault of which is told with the point. -/
def readPoint (currency : String) (point : Value) : Except Failure Price :=
  match ofPoint currency point with
  | .ok price => .ok price
  | .error failure =>
    if isPointFault failure then
      .error (.request (.malformedPricePoint point.display failure.message))
    else .error failure

/-- The prices given by the caller, if any. -/
def readPoints (currency : String) (points : Value) : Except Failure (List Price) := do
  (← (points.orElse (.list [])).parts).mapM (readPoint currency)

end Price

/-- What the caller asks for about prices; null is what is not asked for. -/
structure PriceRequest where
  fiatBackend : Value := .null
  granularity : Value := .null
  currency : Value := .null
  customPrices : Value := .null
  deriving Repr

namespace PriceRequest

/-- The granularity with a label; without one, the finest that covers the period where the backend
needs one. -/
def chooseGranularity (label : Value) (backend : PriceBackend) (period : Period) :
    Except Failure (Option Granularity) :=
  if label.truthy then some <$> Granularity.ofLabel label
  else if backend = .coincap then some <$> Granularity.finest (period.stop - period.start)
  else .ok none

/-- The prices to use for a period. -/
def config (request : PriceRequest) (settings : Settings) (period : Period) :
    Except Failure PriceConfig := do
  let backend ← PriceBackend.ofName (request.fiatBackend.orElse (.text settings.fiatBackend))
  let currency ← upperText (request.currency.orElse (.text settings.fiatCurrency))
  let granularity ←
    chooseGranularity (request.granularity.orElse (.text settings.granularity)) backend period
  let pricePoints ← Price.readPoints currency request.customPrices
  if !pricePoints.isEmpty && backend ≠ .custom then throw (.request .customPricesUnexpected)
  let config : PriceConfig := { backend, granularity, pricePoints, currency }
  config.check
  if backend = .custom then Price.checkEarlier pricePoints period.start
  return config

end PriceRequest

/-! ## Reports -/

/-- What the caller of a report gives; null is what is not given. -/
structure ReportParams where
  startTime : Value := .null
  endTime : Value := .null
  disableFiat : Value := .null
  prices : PriceRequest := {}
  categories : Value := .null
  deriving Repr

/-- A report to be made. -/
structure ReportRequest where
  period : Period
  disableFiat : Bool := false
  priceConfig : Option PriceConfig := none
  categories : List Category := []
  unconfirmedAsNow : Bool := false

namespace ReportRequest

/-- Whether a fault lies in the value of a time. -/
def isTimeFault : Failure → Bool
  | .value _ => true
  | .shape _ => true
  | _ => false

/-- The period from a start to a stop, which is now if it is not given. -/
def readTimes (startTime endTime : Value) (now : Int) : Except Failure Period := do
  let start ← startTime.toInteger
  let stop ← match endTime with
    | .null => pure now
    | v => v.toInteger
  return ⟨start, stop⟩

/-- The period of a report. -/
def readPeriod (startTime endTime : Value) (now : Int) : Except Failure Period :=
  match startTime with
  | .null => .error (.request .startRequired)
  | startTime =>
    match readTimes startTime endTime now with
    | .ok period => .ok period
    | .error failure =>
      if isTimeFault failure then .error (.request (.malformedRange failure.message))
      else .error failure

/-- Whether entries are to have no value: what the caller asks for, else what the settings say. -/
def readDisableFiat (settings : Settings) : Value → Bool
  | .null => settings.disableFiat
  | v => Setting.readFlag v

/-- Check the parameters of a report at a time. -/
def ofParams [Text.CharacterNames] (settings : Settings) (params : ReportParams) (now : Int) :
    Except Failure ReportRequest := do
  let period ← readPeriod params.startTime params.endTime now
  period.check { nonempty := true, past := true } now
  let disableFiat := readDisableFiat settings params.disableFiat
  let priceConfig ←
    if disableFiat then pure none else some <$> params.prices.config settings period
  return {
    period, disableFiat, priceConfig
    categories := ← Category.parse params.categories
    unconfirmedAsNow := settings.unconfirmedAsNow }

end ReportRequest

end NodeLedger
