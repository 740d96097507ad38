import NodeLedger.Calendar
import NodeLedger.Json.Reader
import NodeLedger.Price.Basic
import NodeLedger.Price.Retry
import NodeLedger.Period

/-!
Prices from CoinDesk: one closing price for each day.
-/

namespace NodeLedger.CoinDesk

/-- The address of the closing prices. -/
def historyUrl : String := "https://api.coindesk.com/v1/bpi/historical/close.json"

/-- A closing price, given by its day. -/
def readPrice (item : String × Value) : Except Failure Price :=
  match Calendar.readDate item.1 with
  | .error fault => .error (.value fault)
  | .ok timestamp => return { timestamp, perBitcoin := ← item.2.toDecimal }

/-- The fields of an object. -/
def fieldsOf : Value → Except Failure (List (String × Value))
  | .object fields => .ok fields
  | v => .error (.shape (.missingMember v.kind "items"))

/-- The prices of an answer. -/
def readPrices (body : String) : Except Failure (List Price) := do
  let document ← Json.read .decimal body
  (← fieldsOf ((← document.field "bpi").orElse (.object []))).mapM readPrice

/-- Ask for the closing prices of the days of a period. -/
def query (settings : QuerySettings) (period : Period) : Action String := do
  let first ← Calendar.dayText period.start
  let last ← Calendar.dayText period.stop
  settings.fetch "coindesk" historyUrl [("start", .text first), ("end", .text last)]

/-- A period begun one day earlier: the current day has no closing price. -/
def extended (period : Period) : Period :=
  ⟨period.start - Calendar.day, period.stop⟩

/-- The prices of a period. -/
def prices (settings : QuerySettings) (period : Period) : Action (List Price) :=
  settings.retry.run (query settings (extended period)) readPrices

end NodeLedger.CoinDesk
