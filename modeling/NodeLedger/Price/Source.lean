import NodeLedger.Price.CoinCap
import NodeLedger.Price.CoinDesk
import NodeLedger.Price.CoinGecko
import NodeLedger.Price.Coinbase

/-!
Sources of prices: a backend, how it is asked, and the currency that is wanted.

* `PriceSource.prices` are the prices of a period in ascending order of time and in the currency
  wanted; dollars are converted at the exchange rate of the day.
* `PriceSource.pricesAt` are the prices at some times, from one series for all of them.
-/

namespace NodeLedger

open NodeLedger.Text

/-- The prices of a period as a backend quotes them. -/
def PriceBackend.prices (settings : QuerySettings) (config : PriceConfig) (period : Period) :
    Action (List Price) :=
  match config.backend with
  | .coincap => CoinCap.prices settings config.granularity period
  | .unknown => CoinDesk.prices settings period
  | .coindesk => CoinDesk.prices settings period
  | .coingecko => CoinGecko.prices settings period
  | .coinbase => Coinbase.prices settings (config.granularity.getD .hourly) period
  | .custom => return config.pricePoints

/-- A source of prices.  Its backend is the service that the configuration names, and its exchange
rates are those of CoinCap, unless others are given. -/
structure PriceSource where
  config : PriceConfig
  settings : QuerySettings := {}
  /-- The prices of a period as the backend quotes them. -/
  quotes : Period → Action (List Price) := PriceBackend.prices settings config
  /-- The dollars that one unit of a currency is worth. -/
  dollarRate : String → Action Decimal := CoinCap.dollarRate settings

namespace PriceSource

/-- A source with the given settings, which have to fit together. -/
def make (config : Option PriceConfig) (settings : QuerySettings) : Except Failure PriceSource :=
  match config with
  | none => .error (.request .priceSourceRequired)
  | some config => do
    config.check
    return { config, settings }

/-- Whether a price is in a currency. -/
def isIn (currency : String) (price : Price) : Bool :=
  upper price.currency == currency

/-- Convert a price in dollars into a currency with a known rate; others cannot be converted. -/
def convertAt (currency : String) (rate : Decimal) (price : Price) : Except Failure Price :=
  match price.perBitcoin.div rate with
  | .ok perBitcoin => .ok { timestamp := price.timestamp, perBitcoin, currency }
  | .error fault => .error (.decimal fault)

/-- The exchange rate of a currency, and a line in the log. -/
def exchangeRate (source : PriceSource) (currency : String) : Action Decimal := do
  let rate ← source.dollarRate currency
  Action.log .debug ("converting USD prices to " ++ currency ++ " at rate " ++ rate.text)
  return rate

/-- Convert prices into a currency; its rate is asked for at the first price that needs it. -/
def convert (source : PriceSource) (currency : String) (rate : Option Decimal) :
    List Price → Action (List Price)
  | [] => return []
  | price :: rest => do
    if isIn currency price then
      return price :: (← source.convert currency rate rest)
    if upper price.currency ≠ dollar then
      throw (.price (.unsupportedCurrency price.currency))
    let known ← match rate with
      | some known => pure known
      | none => source.exchangeRate currency
    let converted ← convertAt currency known price
    return converted :: (← source.convert currency (some known) rest)

/-- The prices of a period, which has to be over by now. -/
def prices (source : PriceSource) (period : Period) : Action (List Price) := do
  period.check { past := true } (← Action.now)
  let quoted ← source.quotes period
  source.convert (upper source.config.currency) none (Price.sort quoted)

/-- Integers in ascending order, each once. -/
def ascending (times : List Int) : List Int :=
  (times.mergeSort fun a b => decide (a ≤ b)).eraseDups

/-- The prices at some times, from the series of the period from the first to the last. -/
def pricesAt (source : Except Failure PriceSource) (times : List Int) :
    Action (List (Int × Price)) := do
  let ordered := ascending times
  match ordered.head?, ordered.getLast? with
  | some start, some stop =>
    Action.log .debug ("getting prices for: " ++ toString times.length ++ " requests")
    let source ← source
    let series ← source.prices ⟨start, stop⟩
    ordered.mapM fun time => do return (time, ← Price.lookup series time)
  | _, _ => return []

end PriceSource

end NodeLedger
