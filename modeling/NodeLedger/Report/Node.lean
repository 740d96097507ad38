import NodeLedger.Price.Source
import NodeLedger.Report.OffChain
import NodeLedger.Report.OnChain
import NodeLedger.Request

/-!
The report of a node: what happened on chain and off chain in a period, in the order of time, valued
with one series of prices for the whole period.  If either part fails there is no report.
-/

namespace NodeLedger

/-- The price of nothing, for reports without values. -/
def Price.nothing (config : Option PriceConfig) : Price where
  timestamp := 0
  perBitcoin := .finite false 0 0
  currency := (config.map (·.currency)).getD dollar

namespace ReportRequest

/-- The prices of a report: the series for its period is asked for once, unless entries are to have
no value. -/
def priceLookup (request : ReportRequest) (source : Except Failure PriceSource) :
    Action (Int → Except Failure Price) := do
  if request.disableFiat then return fun _ => .ok (Price.nothing request.priceConfig)
  let source ← source
  let series ← source.prices request.period
  Action.log .debug ("Retrieved: " ++ toString series.length ++ " price points for [" ++
    toString request.period.start ++ ", " ++ toString request.period.stop ++ ")")
  return Price.lookup series

end ReportRequest

/-- Entries in the order of their times; those of one time stay in the order given. -/
def Entry.sort (entries : List Entry) : List Entry :=
  entries.mergeSort fun a b => decide (a.timestamp ≤ b.timestamp)

/-- Where the records of a node come from. -/
structure NodeSource where
  onChain : OnChainSource
  offChain : OffChainSource

namespace NodeSource

/-- The report of a node with a given price for each time. -/
def reportWithPrices (source : NodeSource) (request : ReportRequest)
    (priceAt : Int → Except Failure Price) : Action (List Entry) := do
  let (onChainCategories, offChainCategories) := Category.split request.categories
  let onChain ← source.onChain.report request.unconfirmedAsNow request.period
    { priceAt, categories := onChainCategories }
  let offChain ← source.offChain.report request.period
    { priceAt, categories := offChainCategories }
  Action.log .info ("Report: " ++ toString onChain.length ++ " on chain entries, " ++
    toString offChain.length ++ " off chain entries")
  return Entry.sort (onChain ++ offChain)

/-- The report of a node with prices from a source. -/
def report (source : NodeSource) (request : ReportRequest)
    (prices : Except Failure PriceSource) : Action (List Entry) := do
  source.reportWithPrices request (← request.priceLookup prices)

end NodeSource

end NodeLedger
