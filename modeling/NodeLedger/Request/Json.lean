import NodeLedger.Entry.Basic
import NodeLedger.Record.Json
import NodeLedger.Request

/-!
Prices, categories, requests and entries as JSON values.
-/

namespace NodeLedger

open Value

/-! ## Prices -/

/-- Read a decimal from the text of a value. -/
def Value.decimalField (v : Value) (key : String) : Except Failure Decimal :=
  typedField toDecimal v key

namespace Price

/-- Read a price. -/
def ofValue (v : Value) : Except Failure Price := do
  return {
    timestamp := ← intField v "timestamp"
    perBitcoin := ← decimalField v "price"
    currency := ← textField v "currency" (some dollar) }

/-- Write a price. -/
def toValue (price : Price) : Value :=
  .object
    [("timestamp", .int price.timestamp), ("price", .text price.perBitcoin.text),
     ("currency", .text price.currency)]

/-- Write a series of prices. -/
def seriesToValue (prices : List Price) : Value :=
  .list (prices.map toValue)

end Price

namespace Granularity

/-- Read a granularity: its label, or its parts. -/
def ofValue : Value → Except Failure (Option Granularity)
  | .null => .ok none
  | .text label => some <$> ofLabel (.text label)
  | v => do
    return some {
      aggregation := ← intField v "aggregation"
      maximumQuery := ← intField v "maximum_query"
      label := ← textField v "label" }

/-- Write a granularity. -/
def toValue (granularity : Granularity) : Value :=
  .object
    [("label", .text granularity.label), ("aggregation", .int granularity.aggregation),
     ("maximum_query", .int granularity.maximumQuery), ("max_split", .int granularity.reach)]

end Granularity

namespace PriceConfig

/-- Read the prices to use. -/
def ofValue (v : Value) : Except Failure PriceConfig := do
  let backend := readName "PriceBackend" PriceBackend.all PriceBackend.name
  return {
    backend := ← typedField backend v "backend" (some .unknown)
    granularity := ← typedField Granularity.ofValue v "granularity" (some none)
    pricePoints := ← typedField (readList Price.ofValue) v "price_points" (some [])
    currency := ← textField v "currency" (some dollar) }

/-- Write the prices to use. -/
def toValue (config : PriceConfig) : Value :=
  .object
    [("backend", .text config.backend.name),
     ("granularity", (config.granularity.map Granularity.toValue).getD .null),
     ("price_points", Price.seriesToValue config.pricePoints),
     ("currency", .text config.currency)]

/-- Read the prices to use, none for null. -/
def readOption : Value → Except Failure (Option PriceConfig)
  | .null => .ok none
  | v => some <$> ofValue v

/-- Write the prices to use, null for none. -/
def ofOption (config : Option PriceConfig) : Value :=
  (config.map toValue).getD .null

end PriceConfig

/-! ## Categories and requests -/

namespace Category

/-- Read a category with its patterns as texts. -/
def ofRecord [Text.CharacterNames] (v : Value) : Except Failure Category := do
  let name ← nameField v "name"
  let patterns ← typedField (readList givenPattern) v "regexes"
  let onChain ← boolField v "on_chain" (some false)
  let offChain ← boolField v "off_chain" (some false)
  compile name patterns onChain offChain

/-- Write a category with its patterns as texts. -/
def toRecord (category : Category) : Value :=
  .object
    [("name", category.name),
     ("regexes", .list (category.patterns.map fun pattern => .text pattern.text)),
     ("on_chain", .bool category.onChain), ("off_chain", .bool category.offChain)]

end Category

namespace ReportRequest

/-- Read a request. -/
def ofValue [Text.CharacterNames] (v : Value) : Except Failure ReportRequest := do
  return {
    period := ⟨← intField v "start", ← intField v "end"⟩
    disableFiat := ← boolField v "disable_fiat" (some false)
    priceConfig := ← typedField PriceConfig.readOption v "price_cfg" (some none)
    categories := ← typedField (readList Category.ofRecord) v "categories" (some [])
    unconfirmedAsNow := ← boolField v "unconfirmed_as_now" (some false) }

/-- Write a request. -/
def toValue (request : ReportRequest) : Value :=
  .object
    [("start", .int request.period.start), ("end", .int request.period.stop),
     ("disable_fiat", .bool request.disableFiat),
     ("price_cfg", PriceConfig.ofOption request.priceConfig),
     ("categories", .list (request.categories.map Category.toRecord)),
     ("unconfirmed_as_now", .bool request.unconfirmedAsNow)]

end ReportRequest

/-! ## Settings -/

namespace Settings

/-- Read settings, each by its key; those that are missing have their defaults. -/
def ofValue (v : Value) : Except Failure Settings := do
  let standard : Settings := {}
  return {
    fiatBackend := ← textField v Setting.fiatBackend.key (some standard.fiatBackend)
    granularity := ← textField v Setting.granularity.key (some standard.granularity)
    fiatCurrency := ← textField v Setting.fiatCurrency.key (some standard.fiatCurrency)
    disableFiat := ← boolField v Setting.disableFiat.key (some standard.disableFiat)
    unconfirmedAsNow :=
      ← boolField v Setting.unconfirmedAsNow.key (some standard.unconfirmedAsNow)
    httpTimeout := ← intField v Setting.httpTimeout.key (some standard.httpTimeout)
    priceRetries := ← intField v Setting.priceRetries.key (some standard.priceRetries)
    priceRetrySleep :=
      ← typedField toFloat v Setting.priceRetrySleep.key (some standard.priceRetrySleep) }

/-- Write settings. -/
def toValue (settings : Settings) : Value :=
  .object
    [(Setting.fiatBackend.key, .text settings.fiatBackend),
     (Setting.granularity.key, .text settings.granularity),
     (Setting.fiatCurrency.key, .text settings.fiatCurrency),
     (Setting.disableFiat.key, .bool settings.disableFiat),
     (Setting.unconfirmedAsNow.key, .bool settings.unconfirmedAsNow),
     (Setting.httpTimeout.key, .int settings.httpTimeout),
     (Setting.priceRetries.key, .int settings.priceRetries),
     (Setting.priceRetrySleep.key, .float settings.priceRetrySleep)]

end Settings

/-! ## Entries -/

/-- Write an entry with all its parts. -/
def Entry.toValue (entry : Entry) : Value :=
  .object (entry.reportFields ++
    [("type_name", .text (Text.upper entry.kind.name)),
     ("signed_amount", .int entry.signedAmount)])

end NodeLedger
