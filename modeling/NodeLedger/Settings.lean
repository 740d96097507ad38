import NodeLedger.Price.Basic
import NodeLedger.Text.CaseMapping

/-!
Settings of the program.  A setting has a key, takes a value of one kind, and may be bounded.

* `Setting.read` reads any setting from the value given for it.
* `Settings.ofOptions` reads all of them from the options with which the program is started.
-/

namespace NodeLedger

open NodeLedger.Numeral NodeLedger.Text

/-- What a setting is. -/
inductive Setting where
  | fiatBackend
  | granularity
  | fiatCurrency
  | disableFiat
  | unconfirmedAsNow
  | httpTimeout
  | priceRetries
  | priceRetrySleep
  deriving DecidableEq, Repr

/-- The least and the greatest number that a setting takes. -/
structure Bounds (α : Type) where
  low : α
  high : α
  deriving Repr

/-- The kind of value that a setting takes; numbers have bounds. -/
inductive SettingKind where
  | text
  | flag
  | integer (bounds : Bounds Int)
  | number (bounds : Bounds Binary64)
  deriving Repr

/-- The name of a kind. -/
def SettingKind.name : SettingKind → String
  | text => "str"
  | flag => "bool"
  | integer _ => "int"
  | number _ => "float"

namespace Setting

/-- The key of a setting. -/
def key : Setting → String
  | fiatBackend => "fiat_backend"
  | granularity => "granularity"
  | fiatCurrency => "fiat_currency"
  | disableFiat => "disable_fiat"
  | unconfirmedAsNow => "unconfirmed_as_now"
  | httpTimeout => "http_timeout_seconds"
  | priceRetries => "price_retries"
  | priceRetrySleep => "price_retry_sleep"

/-- The option by which a setting is given when the program is started. -/
def option : Setting → String
  | fiatBackend => "accounting-fiat-backend"
  | granularity => "accounting-granularity"
  | fiatCurrency => "accounting-fiat-currency"
  | disableFiat => "accounting-disable-fiat"
  | unconfirmedAsNow => "accounting-unconfirmed-as-now"
  | httpTimeout => "accounting-http-timeout-seconds"
  | priceRetries => "accounting-price-retries"
  | priceRetrySleep => "accounting-price-retry-sleep"

/-- All settings. -/
def all : List Setting :=
  [fiatBackend, granularity, fiatCurrency, disableFiat, unconfirmedAsNow, httpTimeout,
   priceRetries, priceRetrySleep]

/-- The seconds that a price query may take. -/
def timeoutBounds : Bounds Int := ⟨1, 300⟩

/-- How often a price query may be tried. -/
def retryBounds : Bounds Int := ⟨1, 10⟩

/-- The seconds that may lie between two attempts. -/
def sleepBounds : Bounds Binary64 := ⟨.zero false, .ofQuotient false 60 1⟩

/-- The kind of value that a setting takes. -/
def kind : Setting → SettingKind
  | fiatBackend => .text
  | granularity => .text
  | fiatCurrency => .text
  | disableFiat => .flag
  | unconfirmedAsNow => .flag
  | httpTimeout => .integer timeoutBounds
  | priceRetries => .integer retryBounds
  | priceRetrySleep => .number sleepBounds

/-! ## Reading -/

/-- The result of reading a value of a kind; what the value is not is told with the key. -/
def expecting {α : Type} (setting : Setting) (result : Except Failure α) : Except Failure α :=
  match result with
  | .error (.value fault) =>
    .error (.request (.malformedOption setting.key setting.kind.name fault.message))
  | .error (.shape fault) =>
    .error (.request (.malformedOption setting.key setting.kind.name fault.message))
  | result => result

/-- The fault of a number outside of its bounds. -/
def outOfRange {α : Type} (setting : Setting) (value low high : String) : Except Failure α :=
  .error (.request (.optionOutOfRange value low high setting.key))

/-- A flag: a truth value, or one of the words for yes. -/
def readFlag : Value → Bool
  | .bool b => b
  | v => lower v.display ∈ ["true", "1", "yes", "on"]

/-- An integer within bounds. -/
def readInteger (setting : Setting) (bounds : Bounds Int) (v : Value) : Except Failure Int := do
  let n ← setting.expecting v.toInteger
  if bounds.low ≤ n ∧ n ≤ bounds.high then return n
  else setting.outOfRange (toString n) (toString bounds.low) (toString bounds.high)

/-- A number within bounds; one that is none is outside of any. -/
def readNumber (setting : Setting) (bounds : Bounds Binary64) (v : Value) :
    Except Failure Binary64 := do
  let x ← setting.expecting v.toFloat
  if bounds.low.le x && x.le bounds.high then return x
  else setting.outOfRange x.text bounds.low.text bounds.high.text

/-- Read a setting. -/
def read (setting : Setting) (v : Value) : Except Failure Value :=
  match setting.kind with
  | .text => return .text v.display
  | .flag => return .bool (readFlag v)
  | .integer bounds => return .int (← setting.readInteger bounds v)
  | .number bounds => return .float (← setting.readNumber bounds v)

/-- Read the setting with a key. -/
def readByKey (key : String) (v : Value) : Except Failure Value :=
  match all.find? fun setting => setting.key == key with
  | some setting => setting.read v
  | none => .error (.request (.unknownOption key))

end Setting

/-! ## All settings -/

/-- The settings of the program. -/
structure Settings where
  /-- The price service; empty for the default one. -/
  fiatBackend : String := ""
  /-- The granularity of prices; empty for the best. -/
  granularity : String := ""
  fiatCurrency : String := dollar
  /-- Entries have no value, and no prices are asked for. -/
  disableFiat : Bool := false
  /-- Unconfirmed transactions count as made now. -/
  unconfirmedAsNow : Bool := false
  /-- The seconds after which a price query fails. -/
  httpTimeout : Int := 10
  priceRetries : Int := 3
  /-- The seconds between two attempts of a price query. -/
  priceRetrySleep : Binary64 := .ofDecimal false 5 (-1)
  deriving Repr

namespace Settings

/-- The value of an option, or its default if it is not given. -/
def optionValue (options : Value) (setting : Setting) (default : Value) : Except Failure Value :=
  options.fieldD setting.option default

/-- The settings that the options give. -/
def ofOptions (options : Value) : Except Failure Settings := do
  let text := fun (setting : Setting) (default : String) => do
    return (← optionValue options setting (.text default)).display
  let flag := fun (setting : Setting) => do
    return Setting.readFlag (← optionValue options setting (.text "false"))
  return {
    fiatBackend := ← text .fiatBackend ""
    granularity := ← text .granularity ""
    fiatCurrency := upper (← text .fiatCurrency dollar)
    disableFiat := ← flag .disableFiat
    unconfirmedAsNow := ← flag .unconfirmedAsNow
    httpTimeout := ← Setting.httpTimeout.readInteger Setting.timeoutBounds
      (← optionValue options .httpTimeout (.int 10))
    priceRetries := ← Setting.priceRetries.readInteger Setting.retryBounds
      (← optionValue options .priceRetries (.int 3))
    priceRetrySleep := ← Setting.priceRetrySleep.readNumber Setting.sleepBounds
      (← optionValue options .priceRetrySleep (.float (.ofDecimal false 5 (-1)))) }

end Settings

end NodeLedger
