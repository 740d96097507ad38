import NodeLedger.Price.Basic
import NodeLedger.Price.Granularity
import NodeLedger.Text.CaseMapping

/-!
Which prices a report uses: the service that quotes them, their granularity, the prices that the
caller brings along, and the currency.  Not every service offers every granularity.
-/

namespace NodeLedger

open NodeLedger.Text

/-- Where prices come from. -/
inductive PriceBackend where
  | unknown
  | coincap
  | coindesk
  | custom
  | coingecko
  | coinbase
  deriving DecidableEq, Repr, Inhabited

namespace PriceBackend

/-- The name of a backend. -/
def name : PriceBackend → String
  | unknown => "unknown"
  | coincap => "coincap"
  | coindesk => "coindesk"
  | custom => "custom"
  | coingecko => "coingecko"
  | coinbase => "coinbase"

/-- All backends. -/
def all : List PriceBackend := [unknown, coincap, coindesk, custom, coingecko, coinbase]

/-- The backend with a name in letters of either case; without a name it is unknown. -/
def ofName (given : Value) : Except Failure PriceBackend :=
  if !given.truthy then .ok unknown
  else match given with
    | .text s =>
      match all.find? (·.name == lower s) with
      | some backend => .ok backend
      | none => .error (.request (.unknownBackend s))
    | v => .error (.shape (.missingMember v.kind "lower"))

end PriceBackend

/-- What is needed to get prices. -/
structure PriceConfig where
  backend : PriceBackend := .unknown
  granularity : Option Granularity := none
  pricePoints : List Price := []
  currency : String := dollar
  deriving DecidableEq, Repr

namespace PriceConfig

/-- The labels of the candles that coinbase has. -/
def candleLabels : List String := ["m1", "m5", "m15", "h1", "h6", "d1"]

/-- The fault of a granularity that a service does not offer. -/
def unsupported (detail : UnsupportedGranularity) : Except Failure Unit :=
  .error (.request (.granularityUnsupported detail))

/-- Check that the settings fit the backend. -/
def check (config : PriceConfig) : Except Failure Unit :=
  match config.backend, config.granularity with
  | .unknown, some _ => .error (.request .granularityUnexpected)
  | .coincap, none => .error (.request .granularityRequired)
  | .coindesk, some granularity =>
    if granularity = .daily then .ok () else unsupported .dailyOnly
  | .coingecko, some _ => unsupported .automatic
  | .coinbase, some granularity =>
    if granularity.label ∈ candleLabels then .ok ()
    else unsupported (.noCandles granularity.label)
  | .custom, _ =>
    if config.pricePoints.isEmpty then .error (.request .pricePointsRequired) else .ok ()
  | _, _ => .ok ()

end PriceConfig

/-- Check that a price given by the caller is quoted before a time. -/
def Price.checkEarlier (prices : List Price) (start : Int) : Except Failure Unit :=
  if prices.any fun price => decide (price.timestamp < start) then .ok ()
  else .error (.request .noEarlierPricePoint)

end NodeLedger
