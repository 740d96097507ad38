import NodeLedger.Price.Source
import NodeLedger.Proofs.Session.Unlogged

/-!
# What holds of every search for prices

A search for prices is made of few kinds of steps: it asks price services, more than once if need
be, checks and reads what they answer, and writes log lines.  What holds of these steps, and of what
is made of actions that it holds of, holds of the search for prices by every backend, and of the
conversion of what is found.

Main results:

- Structure `ActionRule`: a property of actions with a clause for each kind of step that asks
  nothing.  Theorem `RetryPolicy.holds_attempts`: with what holds of a pause, it holds of queries
  that are tried more than once.
- Structure `SearchRule`: with a clause for queries.  Theorem `SearchRule.backendPrices`: it holds of
  the prices of every backend.
- Theorem `SearchRule.sourcePrices`: and of the prices of a source that is made for a configuration.
- Theorem `QuerySettings.searchRule_ignoresLog`: that the log does not matter is such a property.
-/

namespace NodeLedger

open NodeLedger.Action

/-! ## Rules -/

/-- A property of actions that holds of each step which asks nothing, and of what is made of actions
that it holds of. -/
structure ActionRule (holds : ∀ {α : Type}, Action α → Prop) : Prop where
  pure : ∀ {α : Type} (a : α), holds (Pure.pure a)
  throw : ∀ {α : Type} (failure : Failure), holds (throw failure : Action α)
  lift : ∀ {α : Type} (r : Except Failure α), holds (liftM r : Action α)
  log : ∀ level text, holds (Action.log level text)
  now : holds Action.now
  /-- What is seen of a session is nothing but the answers that are left. -/
  answersLeft : ∀ {α : Type} {next : Session → Action α}, (∀ s, holds (next s)) →
    (∀ s s', s.replies = s'.replies → next s = next s') → holds (get >>= next)
  bind : ∀ {α β : Type} {act : Action α} {next : α → Action β}, holds act →
    (∀ a, holds (next a)) → holds (act >>= next)

/-- A property of actions that holds of each step of a search for prices, and of what is made of
actions that it holds of.  It holds of a query that is tried more than once if another property
holds of the query. -/
structure SearchRule (settings : QuerySettings) (asks : Action String → Prop)
    (holds : ∀ {α : Type}, Action α → Prop) : Prop extends ActionRule holds where
  asks_fetch : ∀ url params timeout, asks (Http.fetch url params timeout)
  asks_log : ∀ level text {query : Action String}, asks query →
    asks (Action.log level text >>= fun _ => query)
  asks_lift : ∀ {α : Type} (r : Except Failure α) {query : α → Action String},
    (∀ a, asks (query a)) → asks (liftM r >>= query)
  run : ∀ {α : Type} {query : Action String} (read : String → Except Failure α), asks query →
    holds (settings.retry.run query read)

/-- To keep a view of the session in which the log is not seen is such a property. -/
theorem actionRule_keeps {σ : Type} {view : Session → σ}
    (hwrite : ∀ s line, view (s.write line) = view s) : ActionRule (Keeps view) where
  pure := keeps_pure
  throw := keeps_throw
  lift := keeps_lift
  log level text := keeps_modify fun s => hwrite s ⟨level, text⟩
  now := keeps_get.bind fun s => keeps_pure s.now
  answersLeft h _ := keeps_get.bind h
  bind := Keeps.bind

/-- And so is that the log does not matter. -/
theorem actionRule_ignoresLog : ActionRule IgnoresLog where
  pure := ignoresLog_pure
  throw := ignoresLog_throw
  lift := ignoresLog_lift
  log := ignoresLog_log
  now := ignoresLog_now
  answersLeft h hsame := ignoresLog_get_bind (fun s => hsame s s.unlogged rfl) h
  bind := IgnoresLog.bind

/-! ## Queries that are tried more than once -/

namespace RetryPolicy

variable {holds : ∀ {α : Type}, Action α → Prop} (rule : ActionRule holds) (policy : RetryPolicy)

include rule

/-- What holds of asking for a shutdown holds of the check before an attempt. -/
theorem holds_checkRunning (hrequested : holds Shutdown.requested) : holds policy.checkRunning := by
  unfold checkRunning
  split
  · refine rule.bind hrequested fun stopped => ?_
    split
    · exact rule.throw _
    · exact rule.pure _
  · exact rule.pure _

/-- What holds of both ways to pause holds of the rest between attempts. -/
theorem holds_rest (hwait : holds (Shutdown.wait policy.pause))
    (hsleep : holds (Shutdown.sleep policy.pause)) : holds policy.rest := by
  unfold rest
  split
  · refine rule.bind hwait fun stopped => ?_
    split
    · exact rule.throw _
    · exact rule.pure _
  · exact hsleep

/-- What holds of a query holds of any number of attempts. -/
theorem holds_attempts {α : Type} {query : Action String} (hrequested : holds Shutdown.requested)
    (hwait : holds (Shutdown.wait policy.pause)) (hsleep : holds (Shutdown.sleep policy.pause))
    (hattempt : holds query.attempt) (read : String → Except Failure α) (done left : Nat) :
    holds (policy.attempts query read done left) := by
  induction left generalizing done with
  | zero => exact rule.throw _
  | succ left ih =>
    unfold attempts
    refine rule.bind (policy.holds_checkRunning rule hrequested) fun _ => ?_
    refine rule.bind hattempt fun reply => ?_
    split
    · exact rule.lift _
    · refine rule.bind (rule.log _ _) fun _ => ?_
      exact rule.bind (policy.holds_rest rule hwait hsleep) fun _ => ih (done + 1)

end RetryPolicy

/-- The log does not matter to a search for prices. -/
theorem QuerySettings.searchRule_ignoresLog (settings : QuerySettings) :
    SearchRule settings IgnoresLog IgnoresLog where
  toActionRule := actionRule_ignoresLog
  asks_fetch := Http.ignoresLog_fetch
  asks_log level text _ h := (ignoresLog_log level text).bind fun _ => h
  asks_lift r _ h := (ignoresLog_lift r).bind h
  run read h := settings.retry.holds_attempts actionRule_ignoresLog Shutdown.ignoresLog_requested
    (Shutdown.ignoresLog_wait _) (Shutdown.ignoresLog_sleep _) h.attempt read _ _

/-! ## Windows -/

namespace SearchRule

variable {settings : QuerySettings} {asks : Action String → Prop}
  {holds : ∀ {α : Type}, Action α → Prop} (rule : SearchRule settings asks holds)

include rule

theorem asks_settings (service url : String) (params : List (String × Value)) :
    asks (settings.fetch service url params) :=
  rule.asks_log _ _ (rule.asks_fetch _ _ _)

/-- It holds of an action for each of some elements if it does for one of them. -/
theorem mapM {α β : Type} {act : α → Action β} (h : ∀ a, holds (act a)) (as : List α) :
    holds (as.mapM act) := by
  induction as with
  | nil => exact rule.pure []
  | cons a as ih =>
    rw [List.mapM_cons]
    exact rule.bind (h a) fun b => rule.bind ih fun bs => rule.pure (b :: bs)

/-- It holds of a search through windows if it does for one window. -/
theorem gather {α : Type} {find : Period → Action (List α)} (h : ∀ window, holds (find window))
    (width : Int) (period : Period) : holds (period.gather width find) := by
  rw [Period.gather_eq, map_eq_pure_bind]
  exact rule.bind (rule.mapM h _) fun found => rule.pure found.flatten

/-! ## Services -/

theorem coinCapPrices (granularity : Option Granularity) (period : Period) :
    holds (CoinCap.prices settings granularity period) := by
  unfold CoinCap.prices
  split
  · exact rule.throw _
  · extract_lets rest
    have hrest : ∀ checked, holds (rest checked) := by
      intro _
      refine rule.bind (rule.lift _) fun _ => ?_
      refine rule.bind (rule.gather ?_ _ _) fun found => rule.pure _
      intro window
      exact rule.run _ (rule.asks_settings _ _ _)
    split
    · exact rule.bind (rule.throw _) hrest
    · exact hrest ()

theorem dollarRate (currency : String) : holds (CoinCap.dollarRate settings currency) := by
  unfold CoinCap.dollarRate
  refine rule.bind (rule.run _ (rule.asks_fetch _ _ _)) fun rates => ?_
  split
  · split
    · exact rule.throw _
    · exact rule.pure _
  · exact rule.throw _

theorem coinDeskPrices (period : Period) : holds (CoinDesk.prices settings period) := by
  unfold CoinDesk.prices CoinDesk.query
  refine rule.run _ (rule.asks_lift _ fun first => rule.asks_lift _ fun last => ?_)
  exact rule.asks_settings _ _ _

theorem coinGeckoPrices (period : Period) : holds (CoinGecko.prices settings period) := by
  have hrange : ∀ now range, holds (CoinGecko.rangePrices settings now range) := by
    intro now range
    exact rule.bind (rule.run _ (rule.asks_settings _ _ _)) fun found => rule.pure _
  unfold CoinGecko.prices
  refine rule.bind rule.now fun now => ?_
  exact rule.bind (rule.mapM (hrange now) _) fun found => rule.pure _

theorem coinbasePrices (granularity : Granularity) (period : Period) :
    holds (Coinbase.prices settings granularity period) := by
  have hpages : ∀ window, holds (Coinbase.pagePrices settings granularity window) := by
    intro window
    unfold Coinbase.pagePrices Coinbase.query
    refine rule.run _ (rule.asks_lift _ fun first => rule.asks_lift _ fun last => ?_)
    exact rule.asks_settings _ _ _
  unfold Coinbase.prices Coinbase.endlessPrices
  extract_lets extended rest
  have hrest : ∀ checked, holds (rest checked) := by
    intro _
    dsimp only [rest]
    split
    · refine rule.answersLeft (fun s => ?_) fun s s' hreplies => ?_
      · exact rule.bind (rule.mapM hpages _) fun found => rule.pure _
      · rw [hreplies]
    · exact rule.gather hpages _ _
  split
  · exact rule.bind (rule.throw _) hrest
  · exact hrest ()

/-- The rule holds of the prices of every backend. -/
theorem backendPrices (config : PriceConfig) (period : Period) :
    holds (PriceBackend.prices settings config period) := by
  unfold PriceBackend.prices
  split
  · exact rule.coinCapPrices _ period
  · exact rule.coinDeskPrices period
  · exact rule.coinDeskPrices period
  · exact rule.coinGeckoPrices period
  · exact rule.coinbasePrices _ period
  · exact rule.pure _

/-! ## Sources of prices -/

/-- It holds of a conversion if it does of the look-up of a rate. -/
theorem convert {source : PriceSource} (hrate : ∀ currency, holds (source.dollarRate currency))
    (currency : String) (rate : Option Decimal) (prices : List Price) :
    holds (source.convert currency rate prices) := by
  have hexchange : holds (source.exchangeRate currency) := by
    unfold PriceSource.exchangeRate
    exact rule.bind (hrate currency) fun rate => rule.bind (rule.log _ _) fun _ => rule.pure rate
  induction prices generalizing rate with
  | nil =>
    unfold PriceSource.convert
    exact rule.pure []
  | cons price rest ih =>
    unfold PriceSource.convert
    extract_lets convertRest convertAll
    have hconvertRest : ∀ known, holds (convertRest known) := by
      intro known
      refine rule.bind (rule.lift _) fun converted => ?_
      exact rule.bind (ih (some known)) fun others => rule.pure _
    have hconvertAll : ∀ checked, holds (convertAll checked) := by
      intro _
      dsimp only [convertAll]
      split
      · exact rule.bind (rule.pure _) hconvertRest
      · exact rule.bind hexchange hconvertRest
    split
    · exact rule.bind (ih rate) fun others => rule.pure _
    · split
      · exact rule.bind (rule.throw _) hconvertAll
      · exact hconvertAll ()

/-- So it holds of all that a source of prices does, if it does of its queries. -/
theorem prices {source : PriceSource} (hquotes : ∀ period, holds (source.quotes period))
    (hrate : ∀ currency, holds (source.dollarRate currency)) (period : Period) :
    holds (source.prices period) := by
  unfold PriceSource.prices
  refine rule.bind rule.now fun now => rule.bind (rule.lift _) fun _ => ?_
  exact rule.bind (hquotes period) fun quoted => rule.convert hrate _ _ _

/-- The rule holds of the prices of a source that is made for a configuration. -/
theorem sourcePrices {config : Option PriceConfig} {source : PriceSource}
    (h : PriceSource.make config settings = .ok source) (period : Period) :
    holds (source.prices period) := by
  unfold PriceSource.make at h
  split at h
  · cases h
  · obtain ⟨_, -, h⟩ := bind_eq_ok_iff.mp h
    cases h
    exact rule.prices (rule.backendPrices _) rule.dollarRate period

end SearchRule

end NodeLedger
