import NodeLedger.Proofs.Price.Search
import NodeLedger.Report.Node

/-!
# Price services outside a session

Whatever is asked of the price services, and however often, leaves the inside of the session alone:
the node is not asked, nothing that is remembered of it changes, and the clock stands still.

Main results:

- Theorem `QuerySettings.searchRule_inside`: a search for prices keeps the inside.
- Theorem `PriceSource.outside_of_make`: so do the prices of every source that is made for a
  configuration, and theorem `ReportRequest.keeps_priceLookup`: so do the prices of a report.
-/

namespace NodeLedger

open NodeLedger.Action

/-! ## Queries -/

namespace Shutdown

theorem keeps_requested : Keeps Session.inside requested :=
  keeps_get.bind fun s => keeps_pure s.shutdown

theorem keeps_wait (seconds : Numeral.Binary64) : Keeps Session.inside (wait seconds) := by
  unfold wait
  apply (keeps_modify _).bind
  · intro _
    exact keeps_requested
  · intro s
    rfl

theorem keeps_sleep (seconds : Numeral.Binary64) : Keeps Session.inside (sleep seconds) :=
  keeps_modify fun _ => rfl

end Shutdown

theorem keeps_log (level : LogLevel) (text : String) : Keeps Session.inside (log level text) :=
  keeps_modify fun _ => rfl

/-- No search for prices touches the inside of a session. -/
theorem QuerySettings.searchRule_inside (settings : QuerySettings) :
    SearchRule settings (Keeps Session.inside) (Keeps Session.inside) where
  toActionRule := actionRule_keeps Session.inside_write
  asks_fetch := Http.keeps_fetch fun _ _ _ _ => rfl
  asks_log level text _ h := (keeps_log level text).bind fun _ => h
  asks_lift r _ h := (keeps_lift r).bind h
  run read h := settings.retry.holds_attempts (actionRule_keeps Session.inside_write)
    Shutdown.keeps_requested (Shutdown.keeps_wait _) (Shutdown.keeps_sleep _) h.attempt read _ _

/-! ## Sources of prices -/

namespace PriceSource

/-- A source of prices whose quotes and rates leave the inside of a session alone. -/
structure Outside (source : PriceSource) : Prop where
  quotes : ∀ period, Keeps Session.inside (source.quotes period)
  dollarRate : ∀ currency, Keeps Session.inside (source.dollarRate currency)

variable {source : PriceSource} {settings : QuerySettings}

/-- A source that is made for a configuration is such. -/
theorem outside_of_make {config : Option PriceConfig}
    (h : PriceSource.make config settings = .ok source) : source.Outside := by
  have rule := settings.searchRule_inside
  unfold make at h
  split at h
  · cases h
  · obtain ⟨_, -, h⟩ := bind_eq_ok_iff.mp h
    cases h
    exact ⟨rule.backendPrices _, rule.dollarRate⟩

theorem Outside.keeps_prices (h : source.Outside) (period : Period) :
    Keeps Session.inside (source.prices period) :=
  source.settings.searchRule_inside.prices h.quotes h.dollarRate period

end PriceSource

/-- The prices of a report leave the inside of a session alone. -/
theorem ReportRequest.keeps_priceLookup (request : ReportRequest)
    {prices : Except Failure PriceSource} (h : ∀ source, prices = .ok source → source.Outside) :
    Keeps Session.inside (request.priceLookup prices) := by
  unfold priceLookup
  split
  · exact keeps_pure _
  · apply keeps_lift_bind
    intro source hsource
    apply ((h source hsource).keeps_prices _).bind
    intro series
    exact (keeps_log _ _).bind fun _ => keeps_pure _

end NodeLedger
