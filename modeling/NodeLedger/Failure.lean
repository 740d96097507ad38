import NodeLedger.Value
import NodeLedger.Numeral.Integer

/-!
Everything that can go wrong, by cause.

* `DataFault`: the node's records contradict each other or cannot be accounted for.
* `PriceFault`: prices could not be obtained.
* `RequestFault`: the caller asked for something that cannot be answered.
* `ValueFault`: a value of the right kind cannot be read.
* `ShapeFault`: a value of the wrong kind, or a missing part of one.
* `RpcFault`: the node refused a call.

`Failure.message` is the text of each.
-/

namespace NodeLedger

open NodeLedger.Numeral NodeLedger.Text

/-- Records of the node that do not fit together. -/
inductive DataFault where
  | receiveWithFee (txid : String)
  | duplicatePayments (hash : String)
  | differentDuplicates (hash : String)
  | noHops (hash : String)
  | batchedTransaction (txid : String)
  | unknownTransaction (txid : String)
  | blockUnavailable (height : Int)
  deriving DecidableEq, Repr

/-- Prices that could not be obtained. -/
inductive PriceFault where
  | noPrices
  | outOfRange (timestamp : Int)
  | shuttingDown
  | retriesExhausted (attempts : Int)
  | unsupportedCurrency (currency : String)
  deriving DecidableEq, Repr

/-- A malformed list of categories. -/
inductive CategoryFault where
  | nameRequired
  | duplicateName (name : String)
  | appliesToNothing (name : String)
  | invalidPattern (name pattern reason : String)
  | duplicatePattern (pattern first second : String)
  deriving DecidableEq, Repr

/-- A price granularity that a service does not offer. -/
inductive UnsupportedGranularity where
  | dailyOnly
  | automatic
  | noCandles (label : String)
  deriving DecidableEq, Repr

/-- A request that cannot be answered. -/
inductive RequestFault where
  | endBeforeStart (start stop : Int)
  | zeroRange
  | futureRange
  | queryTooLong
  | periodTooLong (label : String)
  | unknownGranularity (label : String)
  | granularityRequired
  | granularityUnexpected
  | granularityUnsupported (detail : UnsupportedGranularity)
  | pricePointsRequired
  | unknownBackend (name : String)
  | category (fault : CategoryFault)
  | unknownOption (key : String)
  | malformedOption (key kind reason : String)
  | optionOutOfRange (value low high key : String)
  | malformedPricePoint (point reason : String)
  | customPricesUnexpected
  | noEarlierPricePoint
  | priceSourceRequired
  | startRequired
  | malformedRange (reason : String)
  deriving DecidableEq, Repr

/-- A value of the right kind that cannot be read. -/
inductive ValueFault where
  | integer (base : Base) (text : String)
  | integerTooLong (digits : Nat)
  | float (text : String)
  /-- A number that is none has no integer part; the name is the one of its kind. -/
  | nanInteger (kind : String)
  | channelPointParts (count : Nat)
  | channelPointIndex (channelPoint : String)
  | channelPointTxid (channelPoint : String)
  | bitcoinAmount (text : String)
  | txid (text : String)
  | hexDigit (position : Nat)
  | dateFormat (text : String)
  | dateRest (rest : String)
  | dayOutOfRange
  | yearOutOfRange (year : Int)
  | pricePairLength (count : Nat)
  | undecodable (text : String)
  /-- A value that names nothing of a kind. -/
  | unknownName (shown kind : String)
  /-- A pattern that asks for two alphabets at once. -/
  | alphabets
  deriving DecidableEq, Repr

/-- A value of the wrong kind, or without a part that is needed. -/
inductive ShapeFault where
  | missingKey (key : String)
  | indexOutOfRange
  /-- A value that has none of the operations of the kind that was expected. -/
  | missingMember (kind name : String)
  | notInteger (kind : String)
  | notFloat (kind : String)
  | notIterable (kind : String)
  | notSubscriptable (kind : String)
  | noLength (kind : String)
  | textKey (kind : String)
  | listKey (kind : String)
  | unhashable (kind : String)
  | unordered (first second : String)
  | notAPattern
  /-- A value in which no pattern can be looked for. -/
  | notAText (kind : String)
  | notTextWithBase
  /-- A value from which no bytes can be read. -/
  | notHexText (kind : String)
  | zeroDivisor
  | arguments (reason : String)
  deriving DecidableEq, Repr

/-- A call that the node refused. -/
structure RpcFault where
  method : String
  payload : Value
  error : Value
  deriving Repr

/-- What is wrong with a JSON text, and where. -/
structure JsonFault where
  problem : String
  line : Nat
  column : Nat
  offset : Nat
  deriving DecidableEq, Repr

/-- A number that is too large for what it is needed for. -/
inductive Oversize where
  | infiniteFloat
  | infiniteDecimal
  | integerForFloat
  | quotient
  | repetition
  | unixTime
  /-- A time whose year does not fit into 32 bits. -/
  | calendarYear
  deriving DecidableEq, Repr

/-- Why a task failed. -/
inductive Failure where
  | data (fault : DataFault)
  | price (fault : PriceFault)
  | request (fault : RequestFault)
  | value (fault : ValueFault)
  | shape (fault : ShapeFault)
  | rpc (fault : RpcFault)
  | json (fault : JsonFault)
  | decimal (fault : DecimalFault)
  | oversize (fault : Oversize)
  | connection (reason : String)
  deriving Repr

/-! ## Texts -/

namespace DataFault

/-- The text of a data fault. -/
def message : DataFault → String
  | receiveWithFee txid => "on chain receive with non-zero fee: " ++ txid
  | duplicatePayments hash =>
    "duplicate payments not supported (" ++ hash ++
      "), query more recent timestamp to exclude duplicates"
  | differentDuplicates hash => "duplicate payments paid to different sources: " ++ hash
  | noHops hash => "payment htlc has a route with zero hops: " ++ hash
  | batchedTransaction txid =>
    "batched transaction " ++ txid ++
      " funds multiple channels, fee attribution is not supported"
  | unknownTransaction txid => "transaction " ++ txid ++ " not found in wallet"
  | blockUnavailable height => "block " ++ toString height ++ " not available"

end DataFault

namespace PriceFault

/-- The text of a price fault. -/
def message : PriceFault → String
  | noPrices => "no price data provided"
  | outOfRange timestamp =>
    "timestamp " ++ toString timestamp ++ " before beginning of price dataset"
  | shuttingDown => "shutting down"
  | retriesExhausted attempts =>
    "could not get data within max retries (" ++ toString attempts ++ ")"
  | unsupportedCurrency currency => "no exchange rate available for: " ++ currency

end PriceFault

namespace CategoryFault

/-- The text of a category fault. -/
def message : CategoryFault → String
  | nameRequired => "category name required"
  | duplicateName name => "duplicate category name: " ++ name
  | appliesToNothing name =>
    "category: " ++ name ++ " must apply to on chain or off chain entries"
  | invalidPattern name pattern reason =>
    "category: " ++ name ++ " invalid regex " ++ pattern ++ ": " ++ reason
  | duplicatePattern pattern first second =>
    "regex " ++ pattern ++ " duplicated in categories " ++ first ++ " and " ++ second

end CategoryFault

namespace UnsupportedGranularity

/-- What a service offers instead. -/
def message : UnsupportedGranularity → String
  | dailyOnly => "coindesk only provides daily price granularity"
  | automatic =>
    "coingecko automatically provides hourly price granularity for the last 90 days and daily " ++
      "price granularity for dates older than that"
  | noCandles label => "coinbase does not provide " ++ label ++ " candles"

end UnsupportedGranularity

namespace RequestFault

/-- The text of a request fault. -/
def message : RequestFault → String
  | endBeforeStart start stop =>
    "end time " ++ toString stop ++ " before start time " ++ toString start
  | zeroRange => "start time equals end time"
  | futureRange => "end time is in the future"
  | queryTooLong => "period too long for any granularity"
  | periodTooLong label => "period too long for granularity level: " ++ label
  | unknownGranularity label => "unknown level of granularity: " ++ label
  | granularityRequired => "granularity required when fiat prices are enabled"
  | granularityUnexpected => "granularity unexpected for default price backend"
  | granularityUnsupported detail =>
    "api does not support requested granularity: " ++ detail.message
  | pricePointsRequired => "at least one price point required for a custom price backend"
  | unknownBackend name => "unknown price backend: " ++ name
  | category fault => fault.message
  | unknownOption key => "Unknown config key: " ++ key
  | malformedOption key kind reason =>
    "Invalid value for " ++ key ++ " (expected " ++ kind ++ "): " ++ reason
  | optionOutOfRange value low high key =>
    "Value " ++ value ++ " out of range [" ++ low ++ ", " ++ high ++ "] for " ++ key
  | malformedPricePoint point reason => "invalid price point " ++ point ++ ": " ++ reason
  | customPricesUnexpected => "custom prices can only be used with the custom price backend"
  | noEarlierPricePoint =>
    "expected at least one price point with a timestamp preceding the given start time"
  | priceSourceRequired => "a price source config is expected"
  | startRequired => "start_time required"
  | malformedRange reason => "invalid time range: " ++ reason

end RequestFault

namespace ValueFault

/-- The text of a value fault.  Of a text that is no integer at most 200 characters are shown. -/
def message : ValueFault → String
  | integer base text =>
    "invalid literal for int() with base " ++ toString base.size ++ ": " ++
      String.ofList ((quoted text).toList.take 200)
  | integerTooLong digits =>
    "Exceeds the limit (4300 digits) for integer string conversion: value has " ++
      toString digits ++ " digits; use sys.set_int_max_str_digits() to increase the limit"
  | float text => "could not convert string to float: " ++ quoted text
  | nanInteger kind => "cannot convert " ++ kind ++ "NaN to integer"
  | channelPointParts count => "expected 2 parts of channel point, got: " ++ toString count
  | channelPointIndex channelPoint => "invalid index in channel point: " ++ channelPoint
  | channelPointTxid channelPoint => "invalid txid in channel point: " ++ channelPoint
  | bitcoinAmount text => "invalid bitcoin amount: " ++ text
  | txid text => "invalid txid: " ++ text
  | hexDigit position =>
    "non-hexadecimal number found in fromhex() arg at position " ++ toString position
  | dateFormat text => "time data " ++ quoted text ++ " does not match format '%Y-%m-%d'"
  | dateRest rest => "unconverted data remains: " ++ rest
  | dayOutOfRange => "day is out of range for month"
  | yearOutOfRange year => "year " ++ toString year ++ " is out of range"
  | pricePairLength count =>
    "expected price and timestamp got: " ++ toString count ++ " entries"
  | undecodable text => text
  | unknownName shown kind => shown ++ " is not a valid " ++ kind
  | alphabets => "ASCII and UNICODE flags are incompatible"

end ValueFault

namespace ShapeFault

/-- The text of a shape fault. -/
def message : ShapeFault → String
  | missingKey key => quoted key
  | indexOutOfRange => "list index out of range"
  | missingMember kind name => "'" ++ kind ++ "' object has no attribute '" ++ name ++ "'"
  | notInteger kind =>
    "int() argument must be a string, a bytes-like object or a real number, not '" ++ kind ++ "'"
  | notFloat kind => "float() argument must be a string or a real number, not '" ++ kind ++ "'"
  | notIterable kind => "'" ++ kind ++ "' object is not iterable"
  | notSubscriptable kind => "'" ++ kind ++ "' object is not subscriptable"
  | noLength kind => "object of type '" ++ kind ++ "' has no len()"
  | textKey kind => "string indices must be integers, not '" ++ kind ++ "'"
  | listKey kind => "list indices must be integers or slices, not " ++ kind
  | unhashable kind => "unhashable type: '" ++ kind ++ "'"
  | unordered first second =>
    "'<' not supported between instances of '" ++ first ++ "' and '" ++ second ++ "'"
  | notAPattern => "first argument must be string or compiled pattern"
  | notAText kind => "expected string or bytes-like object, got '" ++ kind ++ "'"
  | notTextWithBase => "int() can't convert non-string with explicit base"
  | notHexText kind => "fromhex() argument must be str, not " ++ kind
  | zeroDivisor => "integer modulo by zero"
  | arguments reason => reason

end ShapeFault

namespace Oversize

/-- The text of a number that is too large. -/
def message : Oversize → String
  | infiniteFloat => "cannot convert float infinity to integer"
  | infiniteDecimal => "cannot convert Infinity to integer"
  | integerForFloat => "int too large to convert to float"
  | quotient => "integer division result too large for a float"
  | repetition => "the repetition number is too large"
  | unixTime => "timestamp out of range for platform time_t"
  | calendarYear => "[Errno 75] Value too large for defined data type"

end Oversize

namespace DecimalFault

/-- The text of a decimal fault: the name of its condition in a list. -/
def message : DecimalFault → String
  | malformed => "[<class 'decimal.ConversionSyntax'>]"
  | invalid => "[<class 'decimal.InvalidOperation'>]"
  | overflow => "[<class 'decimal.Overflow'>]"
  | divisionByZero => "[<class 'decimal.DivisionByZero'>]"

end DecimalFault

namespace RpcFault

/-- The text of a refused call. -/
def message (fault : RpcFault) : String :=
  "RPC call failed: method: " ++ fault.method ++ ", payload: " ++ fault.payload.display ++
    ", error: " ++ fault.error.display

end RpcFault

namespace JsonFault

/-- The text of a JSON fault with its place. -/
def message (fault : JsonFault) : String :=
  fault.problem ++ ": line " ++ toString fault.line ++ " column " ++ toString fault.column ++
    " (char " ++ toString fault.offset ++ ")"

end JsonFault

namespace Failure

/-- The text of a failure. -/
def message : Failure → String
  | data fault => fault.message
  | price fault => fault.message
  | request fault => fault.message
  | value fault => fault.message
  | shape fault => fault.message
  | rpc fault => fault.message
  | json fault => fault.message
  | decimal fault => fault.message
  | oversize fault => fault.message
  | connection reason => reason

end Failure

end NodeLedger
