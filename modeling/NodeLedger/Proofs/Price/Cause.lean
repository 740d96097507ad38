import NodeLedger.Price.Source
import NodeLedger.Proofs.Request.Cause

/-!
# Causes for which prices cannot be had

A price service that cannot be reached is asked again, until it answers, a shutdown is requested, or
the attempts are used up.  So a lost connection is never itself the cause for which prices cannot be
had: what is left of it is that the attempts are used up.

Main results:

- Theorem `RetryPolicy.coversRun_run`: queries that are tried again never fail for a lost
  connection, whatever the query does.
- Theorem `PriceBackend.coversRun_prices` for all backends, and theorems
  `PriceSource.coversRun_prices` and `PriceSource.coversRun_pricesAt` for what is made of them.
-/

namespace NodeLedger

open NodeLedger.Action NodeLedger.Causes

variable {α : Type} {s : Session} {causes : Causes}

/-! ## Queries -/

namespace RetryPolicy

variable [causes.OfQuotes] (policy : RetryPolicy)

/-- The rest between two attempts may end because of a shutdown. -/
@[simp] theorem coversRun_rest : causes.CoversRun policy.rest s := by
  simp [rest, Shutdown.wait, Shutdown.requested, Shutdown.sleep]

/-- So may a query before it is attempted. -/
@[simp] theorem coversRun_checkRunning : causes.CoversRun policy.checkRunning s := by
  simp [checkRunning, Shutdown.requested]

/-- Whatever a query fails for, the attempts fail for other causes. -/
theorem coversRun_attempts (query : Action String) {read : String → Except Failure α}
    (hread : ∀ reply, causes.Covers (read reply)) (done left : Nat) :
    causes.CoversRun (policy.attempts query read done left) s := by
  induction left generalizing done s with
  | zero => simp [attempts]
  | succ left ih =>
    unfold attempts
    rw [coversRun_bind]
    refine ⟨by simp, fun _ t _ => ?_⟩
    rw [coversRun_bind]
    refine ⟨by simp, fun reply u _ => ?_⟩
    cases reply with
    | ok reply => simp [hread]
    | error failure => simp [ih]

/-- A query that is tried again never fails for a lost connection. -/
theorem coversRun_run (query : Action String) {read : String → Except Failure α}
    (hread : ∀ reply, causes.Covers (read reply)) :
    causes.CoversRun (policy.run query read) s :=
  policy.coversRun_attempts query hread _ _

end RetryPolicy

/-- What is found in each window fails for no other causes than what is found in one. -/
theorem Period.coversRun_gather {find : Period → Action (List α)}
    (h : ∀ window s, causes.CoversRun (find window) s) (width : Int) (period : Period) :
    causes.CoversRun (period.gather width find) s := by
  rw [Period.gather_eq, coversRun_map]
  exact coversRun_mapM fun window _ => h window

/-! ## Answers -/

section Answers

variable [causes.OfReadings]

/-- An answer that is no value fails for the value. -/
@[simp] theorem Json.covers_read (fractions : Json.Fractions) (body : String) :
    causes.Covers (Json.read fractions body) := by
  unfold Json.read
  extract_lets cs
  split <;> simp

/-- Prices are read from an answer, or it has the wrong shape. -/
@[simp] theorem CoinCap.covers_readPrices (body : String) :
    causes.Covers (CoinCap.readPrices body) := by
  simp [CoinCap.readPrices, CoinCap.dataItems, CoinCap.readPrice]

/-- A rate is read from its fields. -/
@[simp] theorem CoinCap.covers_addItem (rates : CoinCap.Rates) (item : Value) :
    causes.Covers (CoinCap.addItem rates item) := by
  unfold CoinCap.addItem
  rw [covers_bind]
  refine ⟨by simp, fun symbol _ => ?_⟩
  cases symbol <;> simp

/-- Rates are read one after the other. -/
@[simp] theorem CoinCap.covers_readRates (body : String) :
    causes.Covers (CoinCap.readRates body) := by
  simp [CoinCap.readRates, CoinCap.dataItems]

@[simp] theorem CoinDesk.covers_readPrices (body : String) :
    causes.Covers (CoinDesk.readPrices body) := by
  have hprice : ∀ item, causes.Covers (CoinDesk.readPrice item) := by
    intro item
    unfold CoinDesk.readPrice
    split <;> simp
  have hfields : ∀ v, causes.Covers (CoinDesk.fieldsOf v) := by
    intro v
    unfold CoinDesk.fieldsOf
    split <;> simp
  simp [CoinDesk.readPrices, hprice, hfields]

@[simp] theorem CoinGecko.covers_readPrices (body : String) :
    causes.Covers (CoinGecko.readPrices body) := by
  simp [CoinGecko.readPrices, CoinGecko.readPrice]

@[simp] theorem Coinbase.covers_readPrices (body : String) :
    causes.Covers (Coinbase.readPrices body) := by
  simp [Coinbase.readPrices, Coinbase.readCandle]

end Answers

/-! ## Backends -/

variable (settings : QuerySettings)

/-- A period is refused for its length only. -/
@[simp] theorem CoinCap.covers_checkReach [causes.OfReadings] {granularity : Granularity}
    (h : causes.includes (.request (.periodTooLong granularity.label))) (period : Period) :
    causes.Covers (CoinCap.checkReach granularity period) := by
  unfold CoinCap.checkReach
  dsimp only
  cases CoinCap.queryCount? granularity
    (max (period.stop - period.start) granularity.aggregation) <;> simp [h]

/-- The prices of windows fail for no request. -/
@[simp] theorem CoinCap.coversRun_windows [causes.OfQuotes] (granularity : Granularity)
    (width : Int) (period : Period) :
    causes.CoversRun (period.gather width fun window =>
      settings.retry.run (CoinCap.query settings granularity window) CoinCap.readPrices) s :=
  Period.coversRun_gather (fun _ _ => settings.retry.coversRun_run _ (by simp)) width period

/-- A service that was reached gives prices, or what it gives is wrong. -/
@[simp] theorem CoinCap.coversRun_prices (granularity : Option Granularity) (period : Period) :
    received.CoversRun (CoinCap.prices settings granularity period) s := by
  unfold CoinCap.prices
  cases granularity <;> simp

/-- The rate of a currency is missing, or cannot be read. -/
@[simp] theorem CoinCap.coversRun_dollarRate [causes.OfQuotes] (currency : String) :
    causes.CoversRun (CoinCap.dollarRate settings currency) s := by
  unfold CoinCap.dollarRate
  rw [coversRun_bind]
  refine ⟨settings.retry.coversRun_run _ (by simp), fun rates t _ => ?_⟩
  cases Table.get? rates (Text.upper currency) <;> simp

@[simp] theorem CoinDesk.coversRun_prices (period : Period) :
    received.CoversRun (CoinDesk.prices settings period) s :=
  settings.retry.coversRun_run _ (by simp)

@[simp] theorem CoinGecko.coversRun_prices (period : Period) :
    received.CoversRun (CoinGecko.prices settings period) s := by
  have hrange : ∀ now range s,
      received.CoversRun (CoinGecko.rangePrices settings now range) s := by
    intro now range s
    unfold CoinGecko.rangePrices
    rw [coversRun_bind]
    exact ⟨settings.retry.coversRun_run _ (by simp), by simp⟩
  simp [CoinGecko.prices, hrange]

@[simp] theorem Coinbase.coversRun_prices (granularity : Granularity) (period : Period) :
    received.CoversRun (Coinbase.prices settings granularity period) s := by
  have hpage : ∀ window s,
      received.CoversRun (Coinbase.pagePrices settings granularity window) s :=
    fun _ _ => settings.retry.coversRun_run _ (by simp)
  have hpages : ∀ width period s, received.CoversRun
      (Period.gather width (Coinbase.pagePrices settings granularity) period) s :=
    fun width period _ => Period.coversRun_gather hpage width period
  simp [Coinbase.prices, Coinbase.endlessPrices, hpage, hpages]

/-- No backend fails for a lost connection. -/
@[simp] theorem PriceBackend.coversRun_prices (config : PriceConfig) (period : Period) :
    received.CoversRun (PriceBackend.prices settings config period) s := by
  unfold PriceBackend.prices
  split <;> simp

/-! ## Sources of prices -/

/-- There may be no price at a time. -/
@[simp] theorem Price.covers_lookup [causes.OfQuotes] (series : List Price) (time : Int) :
    causes.Covers (Price.lookup series time) := by
  unfold Price.lookup
  split
  · simp
  · split <;> simp

namespace PriceSource

variable {settings : QuerySettings} {source : PriceSource}

/-- A source of prices whose quotes and rates cannot be had for some causes only. -/
structure CoveredBy (causes : Causes) (source : PriceSource) : Prop where
  quotes : ∀ period s, causes.CoversRun (source.quotes period) s
  dollarRate : ∀ currency s, causes.CoversRun (source.dollarRate currency) s

/-- A source of prices is not made if the settings do not fit the service. -/
@[simp] theorem covers_make [causes.OfValues] (config : Option PriceConfig) :
    causes.Covers (PriceSource.make config settings) := by
  unfold make
  split <;> simp

/-- A source that is made for a configuration never fails for a lost connection. -/
theorem coveredBy_of_make {config : Option PriceConfig}
    (h : PriceSource.make config settings = .ok source) : source.CoveredBy received := by
  unfold make at h
  split at h
  · cases h
  · obtain ⟨_, -, h⟩ := bind_eq_ok_iff.mp h
    cases h
    exact ⟨fun _ _ => PriceBackend.coversRun_prices settings _ _,
      fun _ _ => CoinCap.coversRun_dollarRate settings _⟩

/-- Converting prices fails only as the look-up of the rate does, or for the rate. -/
theorem CoveredBy.coversRun_convert [causes.OfQuotes] (h : source.CoveredBy causes)
    (currency : String) (rate : Option Decimal) (prices : List Price) :
    causes.CoversRun (source.convert currency rate prices) s := by
  have hrate : ∀ s, causes.CoversRun (source.exchangeRate currency) s := by
    intro s
    simp [exchangeRate, h.dollarRate]
  have hconvert : ∀ rate price, causes.Covers (convertAt currency rate price) := by
    intro rate price
    unfold convertAt
    split <;> simp
  induction prices generalizing rate s with
  | nil => simp [convert]
  | cons price rest ih =>
    unfold convert
    cases rate <;> simp [ih, hrate, hconvert]

/-- A series of prices is missing for no other causes than its quotes and rates, and those for
which a period is refused. -/
theorem CoveredBy.coversRun_prices [causes.OfQuotes] (h : source.CoveredBy causes)
    {period : Period} (hperiod : ∀ now, causes.Covers (period.check { past := true } now)) :
    causes.CoversRun (source.prices period) s := by
  simp [prices, hperiod, h.quotes, h.coversRun_convert]

/-- The prices at some times are never missing for a lost connection. -/
theorem CoveredBy.coversRun_pricesAt (h : source.CoveredBy received) (times : List Int) :
    received.CoversRun (pricesAt (.ok source) times) s := by
  unfold pricesAt
  extract_lets ordered
  split <;> simp [h.coversRun_prices]

end PriceSource

end NodeLedger
