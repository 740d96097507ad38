import NodeLedger.Proofs.Price.Custom
import NodeLedger.Proofs.Price.Reach

/-!
# Prices that a request may ask for

What a caller asks for about prices is checked before any service is asked.  What has passed can be
had: there is a service that quotes the prices, with a granularity that it offers.  If the
granularity is chosen for the period, the period is not too long for it either.

Main results:

- Theorem `PriceRequest.granularity_of_config`: the granularity with which CoinCap is asked.
- Theorems `PriceRequest.coveredBy_offered` and `PriceRequest.coversRun_withinReach`: what CoinCap
  does not refuse.
- Theorem `PriceRequest.exists_source_of_config`: a request that is accepted has a source of prices,
  which refuses neither the granularity nor the period for which it was chosen.
-/

namespace NodeLedger

open NodeLedger.Action NodeLedger.Causes

namespace PriceRequest

variable {request : PriceRequest} {settings : Settings} {period : Period} {config : PriceConfig}

/-- Neither the caller nor the settings name a granularity. -/
def Unlabelled (request : PriceRequest) (settings : Settings) : Prop :=
  (request.granularity.orElse (.text settings.granularity)).truthy = false

/-! ## The granularity of a request -/

/-- CoinCap is asked with the granularity that is named, and otherwise with the finest one that
reaches over the period. -/
theorem granularity_of_config (h : request.config settings period = .ok config)
    (hbackend : config.backend = .coincap) :
    ∃ granularity ∈ Granularity.all, config.granularity = some granularity ∧
      (request.Unlabelled settings → granularity.IsFinest (period.stop - period.start)) := by
  obtain ⟨-, -, hchosen⟩ := checks_of_config h
  unfold chooseGranularity at hchosen
  rw [if_pos hbackend, map_eq_pure_bind, map_eq_pure_bind] at hchosen
  split at hchosen
  case isTrue hlabel =>
    obtain ⟨granularity, hfound, hgranularity⟩ := bind_eq_ok_iff.mp hchosen
    refine ⟨granularity, Granularity.mem_of_ofLabel hfound,
      (Except.ok.inj hgranularity).symm, fun hnone => ?_⟩
    rw [hnone] at hlabel
    cases hlabel
  case isFalse =>
    obtain ⟨granularity, hfound, hgranularity⟩ := bind_eq_ok_iff.mp hchosen
    have hfinest := Granularity.finest_eq_ok_iff.mp hfound
    exact ⟨granularity, hfinest.mem, (Except.ok.inj hgranularity).symm, fun _ => hfinest⟩

/-! ## What CoinCap is asked -/

/-- All that can go wrong but that a granularity is not offered. -/
def offered : Causes :=
  besides fun fault => ∃ label, fault = .unknownGranularity label

/-- All that can go wrong but that a period is too long for its granularity. -/
def withinReach : Causes :=
  besides fun fault => ∃ label, fault = .periodTooLong label

instance ofQuotes_offered : offered.OfQuotes :=
  inferInstanceAs (Causes.OfQuotes (besides _))

instance ofQuotes_withinReach : withinReach.OfQuotes :=
  inferInstanceAs (Causes.OfQuotes (besides _))

variable {granularity : Granularity} {query : QuerySettings}

/-- The prices of CoinCap are those of the granularity that the configuration gives. -/
theorem prices_of_coincap (hbackend : config.backend = .coincap)
    (hgranularity : config.granularity = some granularity) (range : Period) :
    PriceBackend.prices query config range = CoinCap.prices query (some granularity) range := by
  simp [PriceBackend.prices, hbackend, hgranularity]

/-- With a granularity that CoinCap offers, neither quotes nor rates are missing because it does
not offer it. -/
theorem coveredBy_offered (hbackend : config.backend = .coincap)
    (hgranularity : config.granularity = some granularity) (hmem : granularity ∈ Granularity.all) :
    PriceSource.CoveredBy offered { config, settings := query } := by
  have htoo : offered.includes (.request (.periodTooLong granularity.label)) := by
    simp [offered]
  refine ⟨fun range s => ?_, fun currency s => CoinCap.coversRun_dollarRate query currency⟩
  change offered.CoversRun (PriceBackend.prices query config range) s
  rw [prices_of_coincap hbackend hgranularity]
  exact CoinCap.coversRun_prices_of_mem query hmem (CoinCap.covers_checkReach htoo range)

/-- Within the reach of the granularity, the quotes are not missing because a period is too long. -/
theorem coversRun_withinReach (hbackend : config.backend = .coincap)
    (hgranularity : config.granularity = some granularity) (hmem : granularity ∈ Granularity.all)
    {range : Period} (hreach : range.stop - range.start ≤ granularity.reach) (s : Session) :
    withinReach.CoversRun (PriceBackend.prices query config range) s := by
  have hcheck : CoinCap.checkReach granularity range = .ok () :=
    (CoinCap.checkReach_eq_ok_iff hmem).mpr hreach
  rw [prices_of_coincap hbackend hgranularity]
  exact CoinCap.coversRun_prices_of_mem query hmem (covers_of_eq_ok hcheck)

/-! ## The source of a request -/

/-- A request that is accepted has a source of prices.  CoinCap is never asked with a granularity
that it does not offer.  If none is named, the period is not longer than five of the longest
queries, the granularity is the finest one that reaches over the period, and the period is never
refused for its length. -/
theorem exists_source_of_config (h : request.config settings period = .ok config)
    (query : QuerySettings) :
    ∃ source, PriceSource.make (some config) query = .ok source ∧ source.config = config ∧
      (config.backend = .coincap →
        ∃ granularity ∈ Granularity.all, config.granularity = some granularity ∧
          (∀ range s label,
            ((source.quotes range).outcome s).1 ≠
                .error (.request (.unknownGranularity label)) ∧
              ((source.prices range).outcome s).1 ≠
                .error (.request (.unknownGranularity label))) ∧
          (request.Unlabelled settings →
            period.stop - period.start ≤ maxQueries * (7305 * Calendar.day) ∧
              granularity.IsFinest (period.stop - period.start) ∧
              ∀ s label, ((source.quotes period).outcome s).1 ≠
                .error (.request (.periodTooLong label)))) := by
  obtain ⟨hcheck, -, -⟩ := checks_of_config h
  refine ⟨{ config, settings := query }, PriceSource.make_eq_ok_iff.mpr ⟨hcheck, rfl⟩, rfl, ?_⟩
  intro hbackend
  obtain ⟨granularity, hmem, hgranularity, hfinest⟩ := granularity_of_config h hbackend
  refine ⟨granularity, hmem, hgranularity, ?_, ?_⟩
  · intro range s label
    have hcovered : PriceSource.CoveredBy offered { config, settings := query } :=
      coveredBy_offered hbackend hgranularity hmem
    have hperiod : ∀ now, offered.Covers (range.check { past := true } now) := by
      intro now
      simp [Period.check, offered]
    constructor
    · intro hfails
      exact hcovered.quotes range s _ hfails ⟨label, rfl⟩
    · intro hfails
      exact hcovered.coversRun_prices hperiod _ hfails ⟨label, rfl⟩
  · intro hlabel
    have hfinest := hfinest hlabel
    have hreach := hfinest.covers
    have hlongest := (Granularity.sound_of_mem hmem).reach_le
    refine ⟨by omega, hfinest, fun s label hfails => ?_⟩
    exact coversRun_withinReach hbackend hgranularity hmem hreach s _ hfails ⟨label, rfl⟩

/-- Prices of CoinCap for a hundred days, with no granularity named: those of every hour. -/
theorem exists_source_of_config_hundredDays :
    PriceRequest.config { fiatBackend := .text "CoinCap" } {} ⟨0, 8640000⟩ =
        .ok { backend := .coincap, granularity := some Granularity.hourly } ∧
      (∃ source, PriceSource.make
          (some { backend := .coincap, granularity := some Granularity.hourly }) {} = .ok source ∧
        ∀ s label, ((source.quotes ⟨0, 8640000⟩).outcome s).1 ≠
          .error (.request (.periodTooLong label))) := by
  have hconfig : PriceRequest.config { fiatBackend := .text "CoinCap" } {} ⟨0, 8640000⟩ =
      .ok { backend := .coincap, granularity := some Granularity.hourly } := by rfl
  obtain ⟨source, hmake, -, hcoincap⟩ := exists_source_of_config hconfig {}
  obtain ⟨granularity, -, -, -, hchosen⟩ := hcoincap rfl
  obtain ⟨-, -, hquotes⟩ := hchosen rfl
  exact ⟨hconfig, source, hmake, hquotes⟩

end PriceRequest

end NodeLedger
