import NodeLedger.Node.Source

/-!
The service that the program offers to its node: it is started with options, told to stop, and
called for reports, exchange rates and estimates.

A call that fails for a reason that concerns the caller is answered with the reason; other failures
are passed on.
-/

namespace NodeLedger.Service

/-! ## Start and stop -/

/-- A text, or another one in its place if it is empty. -/
def orNamed (s other : String) : String :=
  if s.isEmpty then other else s

/-- Start with options. -/
def start (options : Value) : Action Settings := do
  Action.log .info "Initializing cl-accounting plugin..."
  let settings ← Settings.ofOptions options
  Action.log .info ("Configuration loaded: fiat_backend=" ++
    orNamed settings.fiatBackend "default" ++ ", granularity=" ++
    orNamed settings.granularity "best" ++ ", currency=" ++ settings.fiatCurrency ++
    ", disable_fiat=" ++ (Value.bool settings.disableFiat).display)
  Action.log .info "cl-accounting plugin initialized successfully!"
  return settings

/-- Stop as soon as possible: queries that are under way are not tried again. -/
def stop : Action Unit := do
  Action.log .info "Received SIGTERM, initiating clean shutdown..."
  Shutdown.request

/-! ## Calls -/

/-- The answer that tells what is wrong. -/
def refusal (reason : String) : Value :=
  .object [("error", .text reason)]

/-- The answer to a call before the start. -/
def notStarted : Value :=
  refusal "Plugin not fully initialized"

/-- Whether a failure lies in a value that was given or received. -/
def isValueFailure : Failure → Bool
  | .request _ => true
  | .value _ => true
  | .rpc _ => true
  | .json _ => true
  | _ => false

/-- Whether a failure is one of a report. -/
def isReportFailure : Failure → Bool
  | .data _ => true
  | .price _ => true
  | failure => isValueFailure failure

/-- Whether a fault is that of a value of the wrong kind. -/
def isKindFault : ShapeFault → Bool
  | .missingKey _ => false
  | .indexOutOfRange => false
  | .missingMember _ _ => false
  | .zeroDivisor => false
  | _ => true

/-- Whether a failure is one of a look-up of prices. -/
def isPriceFailure : Failure → Bool
  | .shape fault => isKindFault fault
  | failure => isReportFailure failure

/-- Check the arguments of a call: all that are required are there, and no others but those that may
be. -/
def checkArguments (required optional : List String) : Value → Except Failure Unit
  | .object fields =>
    match required.find? fun name => fields.all (·.1 != name) with
    | some name => .error (.shape (.arguments ("missing required argument: " ++ name)))
    | none =>
      match fields.find? fun field => field.1 ∉ required ++ optional with
      | some (name, _) => .error (.shape (.arguments ("unexpected argument: " ++ name)))
      | none => .ok ()
  | v => .error (.shape (.notIterable v.kind))

/-- What a caller asks for about prices. -/
def priceRequest (args : Value) : Except Failure PriceRequest := do
  return {
    fiatBackend := ← args.field "fiat_backend"
    granularity := ← args.field "granularity"
    currency := ← args.field "currency"
    customPrices := ← args.field "custom_prices" }

/-- What the caller of a report gives. -/
def reportParams (args : Value) : Except Failure ReportParams := do
  return {
    startTime := ← args.field "start_time"
    endTime := ← args.field "end_time"
    disableFiat := ← args.field "disable_fiat"
    prices := ← priceRequest args
    categories := ← args.field "categories" }

/-- How prices are asked for under some settings. -/
def querySettings (settings : Settings) : QuerySettings where
  retry := { maxAttempts := settings.priceRetries, pause := settings.priceRetrySleep }
  timeout := settings.httpTimeout

/-- The source of the prices that a configuration asks for. -/
def priceSource (settings : Settings) (config : Option PriceConfig) : Except Failure PriceSource :=
  PriceSource.make config (querySettings settings)

/-! ### Reports -/

/-- A report as an answer. -/
def reportAnswer (request : ReportRequest) (entries : List Entry) : Value :=
  .object
    [("start_time", .int request.period.start), ("end_time", .int request.period.stop),
     ("count", .int entries.length),
     ("entries", .list (entries.map fun entry => .object entry.reportFields))]

/-- Make a report; if it fails the log says so too. -/
def makeReport (settings : Settings) (request : ReportRequest) : Action Value := do
  Node.forget
  let prices := priceSource settings request.priceConfig
  match ← Action.attempt (Node.source.report request prices) with
  | .ok entries => return reportAnswer request entries
  | .error failure =>
    if !isReportFailure failure then throw failure
    Action.log .error ("Accounting report failed: " ++ failure.message)
    return refusal failure.message

/-- Answer a call for a report. -/
def report [Text.CharacterNames] (settings : Option Settings) (args : Value) : Action Value := do
  checkArguments ["start_time"]
    ["end_time", "disable_fiat", "granularity", "fiat_backend", "currency", "categories",
     "custom_prices"] args
  match settings with
  | none => return notStarted
  | some settings =>
    match ReportRequest.ofParams settings (← reportParams args) (← Action.now) with
    | .ok request => makeReport settings request
    | .error failure =>
      if isValueFailure failure then return refusal failure.message else throw failure

/-! ### Exchange rates -/

/-- Integers that a value holds. -/
def readTimes (times : Value) : Except Failure (List Int) := do
  (← (times.orElse (.list [])).parts).mapM Value.toInteger

/-- The prices that a caller asks for, at some times in ascending order. -/
def pricesFor (settings : Settings) (request : PriceRequest) (period : Period)
    (times : List Int) : Action (List (Int × Price)) := do
  let config ← request.config settings period
  let source ← priceSource settings (some config)
  PriceSource.pricesAt (.ok source) times

/-- The rates at some times, which have to be given. -/
def ratesAt (settings : Settings) (args : Value) : Action Value := do
  let times := (← readTimes (← args.field "timestamps")).mergeSort fun a b => decide (a ≤ b)
  match times.head?, times.getLast? with
  | some first, some last =>
    let prices ← pricesFor settings (← priceRequest args) ⟨first, last⟩ times
    return .object
      [("rates", .list (prices.map fun (time, price) =>
        .object (("timestamp", .int time) :: price.reportFields)))]
  | _, _ => return refusal "at least one timestamp required"

/-- Answer a failure of a look-up of prices with its reason. -/
def answering (act : Action Value) : Action Value := do
  match ← Action.attempt act with
  | .ok answer => return answer
  | .error failure =>
    if isPriceFailure failure then return refusal failure.message else throw failure

/-- Answer a call for exchange rates. -/
def exchangeRates (settings : Option Settings) (args : Value) : Action Value := do
  checkArguments ["timestamps"] ["granularity", "fiat_backend", "currency", "custom_prices"] args
  match settings with
  | none => return notStarted
  | some settings => answering (ratesAt settings args)

/-! ### Estimates -/

/-- What an estimate is made of: an amount and the price at its time. -/
structure Quote where
  amount : Int
  price : Price
  deriving Repr

/-- The amount and the price that a caller asks for; a negative amount is refused. -/
def quote? (settings : Settings) (args : Value) : Action (Option Quote) := do
  let amount ← (← args.field "amount_msat").toInteger
  let time ← (← args.field "timestamp").toInteger
  if amount < 0 then return none
  let request := { ← priceRequest args with customPrices := .null }
  let prices ← pricesFor settings request ⟨time, time⟩ [time]
  return (prices.find? (·.1 == time)).map fun entry => ⟨amount, entry.2⟩

/-- An estimate as an answer. -/
def estimateAnswer (quote : Quote) : Except Failure Value := do
  let value ← fiatValue quote.price.perBitcoin quote.amount
  return .object
    (("amount_msat", .int quote.amount) :: ("fiat_value", .text value.text) ::
      quote.price.reportFields)

/-- Estimate the value of an amount. -/
def estimate (settings : Settings) (args : Value) : Action Value := do
  match ← Action.attempt (quote? settings args) with
  | .ok none => return refusal "amount_msat must be non-negative"
  | .ok (some quote) => estimateAnswer quote
  | .error failure =>
    if isPriceFailure failure then return refusal failure.message else throw failure

/-- Answer a call for the value of an amount. -/
def fiatEstimate (settings : Option Settings) (args : Value) : Action Value := do
  checkArguments ["amount_msat", "timestamp"] ["granularity", "fiat_backend", "currency"] args
  match settings with
  | none => return notStarted
  | some settings => estimate settings args

end NodeLedger.Service
