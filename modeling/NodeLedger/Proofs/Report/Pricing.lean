import NodeLedger.Proofs.Price.Series
import NodeLedger.Proofs.Report.Conservation

/-!
# Prices of a report

A report asks for one series of prices, and values every entry at the price of its time.  No entry
is valued at a price from its future, nor at one that a later price had replaced by then.

Main results:

- Structure `Entry.PricedFrom`: an entry has the last price of a series by its time.
- Theorem `NodeSource.report_priced`: every entry of a report with values has the last price by its
  time of the series that the report has asked for.
-/

namespace NodeLedger

open List NodeLedger.Action NodeLedger.Text

/-- An entry has the last price of a series by its time, and the value of its amount at that price.
Of prices quoted for one time it is the one quoted last. -/
structure Entry.PricedFrom (quoted series : List Price) (currency : String) (rate : Decimal)
    (entry : Entry) : Prop where
  mem : entry.price ∈ series
  not_later : entry.price.timestamp ≤ entry.timestamp
  latest : ∀ p ∈ series, p.timestamp ≤ entry.timestamp →
    p.timestamp ≤ entry.price.timestamp
  last_quote : ∃ quote,
    (Price.quotedAt quoted entry.price.timestamp).getLast? = some quote ∧
      quote.Converts currency rate entry.price
  currency_eq : entry.price.currency = currency ∨ upper entry.price.currency = currency
  value_eq : NodeLedger.fiatValue entry.price.perBitcoin entry.amount = .ok entry.fiatValue

/-- An entry that is valued from a series has its last price by the time of the entry. -/
theorem Entry.ValuedBy.pricedFrom {quoted series : List Price} {currency : String}
    {rate : Decimal} {entry : Entry} (h : entry.ValuedBy (Price.lookup series))
    (hseries : Forall₂ (Price.Converts currency rate) (Price.sort quoted) series) :
    entry.PricedFrom quoted series currency rate := by
  have hsorted := Price.pairwise_of_converts hseries
  obtain ⟨hmem, hle, hlatest⟩ := Price.latest_of_lookup hsorted h.price_eq
  obtain ⟨quote, hquote, hconverts⟩ := Price.exists_last_quote hseries h.price_eq
  exact ⟨hmem, hle, hlatest, ⟨quote, hquote, hconverts⟩, hconverts.currency_eq, h.value_eq⟩

/-- The prices of a report with values are looked up in the series for its period. -/
theorem ReportRequest.ends_priceLookup {request : ReportRequest}
    {prices : Except Failure PriceSource} {priceAt : Int → Except Failure Price} {s t : Session}
    (hvalues : request.disableFiat = false)
    (h : Ends (request.priceLookup prices) s priceAt t) :
    ∃ source series s₁, prices = .ok source ∧ Ends (source.prices request.period) s series s₁ ∧
      priceAt = Price.lookup series := by
  unfold priceLookup at h
  simp only [hvalues, Bool.false_eq_true, if_false, ends_bind, ends_lift, ends_log, ends_pure] at h
  obtain ⟨source, _, ⟨hsource, rfl⟩, series, s₁, hseries, _, _, rfl, rfl, rfl⟩ := h
  exact ⟨source, series, s₁, hsource, hseries, rfl⟩

/-- Every entry of a report with values has the last price by its time of the series for the period
of the report. -/
theorem NodeSource.report_priced {node : NodeSource} {request : ReportRequest}
    {prices : Except Failure PriceSource} {entries : List Entry} {s t : Session}
    (hvalues : request.disableFiat = false) (h : Ends (node.report request prices) s entries t) :
    ∃ source series quoted rate s₁ s₂, prices = .ok source ∧
      Ends (source.prices request.period) s series s₁ ∧
      Ends (source.quotes request.period) s quoted s₂ ∧
      Forall₂ (Price.Converts (upper source.config.currency) rate) (Price.sort quoted) series ∧
      ∀ entry ∈ entries,
        entry.PricedFrom quoted series (upper source.config.currency) rate := by
  obtain ⟨priceAt, u, hlookup, hreport⟩ := ends_bind.mp h
  obtain ⟨source, series, s₁, hsource, hseries, rfl⟩ :=
    ReportRequest.ends_priceLookup hvalues hlookup
  obtain ⟨quoted, s₂, rate, -, hquoted, hconverted⟩ := PriceSource.ends_prices hseries
  refine ⟨source, series, quoted, rate, s₁, s₂, hsource, hseries, hquoted, hconverted, ?_⟩
  intro entry hentry
  exact (valuedBy_of_ends hreport entry hentry).pricedFrom hconverted

/-- Prices in any order, two of them for one time. -/
def samplePrices : PriceSource where
  config := {
    backend := .custom
    pricePoints := [
      { timestamp := 20, perBitcoin := Decimal.ofInt 300 },
      { timestamp := 0, perBitcoin := Decimal.ofInt 100 },
      { timestamp := 40, perBitcoin := Decimal.ofInt 400 },
      { timestamp := 20, perBitcoin := Decimal.ofInt 200 }] }

/-- The report of the sample wallet with these prices. -/
theorem report_priced_samplePrices :
    ∃ entries t,
      Ends (sampleWallet.source.report { period := ⟨0, 100⟩ } (.ok samplePrices)) { now := 100 }
        entries t ∧
      entries.map (fun entry => (entry.timestamp, entry.price.timestamp, entry.price.perBitcoin)) =
        [(10, 0, Decimal.ofInt 100), (10, 0, Decimal.ofInt 100), (20, 20, Decimal.ofInt 200),
          (20, 20, Decimal.ofInt 200), (20, 20, Decimal.ofInt 200), (20, 20, Decimal.ofInt 200),
          (30, 20, Decimal.ofInt 200), (30, 20, Decimal.ofInt 200)] ∧
      ∃ source series quoted rate s₁ s₂,
        (Except.ok samplePrices : Except Failure PriceSource) = .ok source ∧
        Ends (source.prices ⟨0, 100⟩) { now := 100 } series s₁ ∧
        Ends (source.quotes ⟨0, 100⟩) { now := 100 } quoted s₂ ∧
        Forall₂ (Price.Converts (upper source.config.currency) rate) (Price.sort quoted) series ∧
        ∀ entry ∈ entries,
          entry.PricedFrom quoted series (upper source.config.currency) rate := by
  refine (exists_ends_of_outcome ?_).imp fun entries h => ⟨_, h.1, h.2, ?_⟩
  · unfold NodeSource.report ReportRequest.priceLookup PriceSource.prices
      NodeSource.reportWithPrices
    rw [Entry.sort_eq_foldr, Price.sort_eq_foldr]
    decide +kernel
  · have hpriced := NodeSource.report_priced rfl h.1
    exact hpriced

end NodeLedger
