import Mathlib.Order.Bounds.Basic
import NodeLedger.Proofs.Order.Related
import NodeLedger.Proofs.Price.Custom
import NodeLedger.Proofs.Price.Search

/-!
# Prices at some times

The prices at some times are looked up in one series, which reaches from the first of the times to
the last.  The times are put in order, each once, so nothing but the log depends on how they are
listed.

Main results:

- Theorem `PriceSource.pairwise_ascending`: times in order, each once.  Theorem
  `PriceSource.ascending_congr`: they depend on nothing but which times there are.
- Theorem `PriceSource.exists_series_of_pricesAt`: all prices are from one series.
- Theorem `PriceSource.outcome_pricesAt_of_unquoted`: there is no price at a time for which none are
  quoted.
- Theorem `PriceSource.mirrors_pricesAt`: how the times are listed does not matter.
-/

namespace NodeLedger
namespace PriceSource

open List NodeLedger.Action NodeLedger.Text

variable {config : PriceConfig} {settings : QuerySettings} {source : PriceSource}
  {times times' : List Int} {s t : Session}

/-! ## Times in order -/

/-- If times in order are listed once each, every time is before those behind it. -/
theorem pairwise_eraseDups {times : List Int} (h : times.Pairwise (· ≤ ·)) :
    times.eraseDups.Pairwise (· < ·) := by
  match times with
  | [] => exact .nil
  | time :: rest =>
    obtain ⟨hle, hrest⟩ := List.pairwise_cons.mp h
    rw [List.eraseDups_cons]
    refine .cons ?_ (pairwise_eraseDups (hrest.filter _))
    intro later hlater
    obtain ⟨hmem, hother⟩ := List.mem_filter.mp (List.mem_eraseDups.mp hlater)
    have hne : later ≠ time := by simpa using hother
    exact lt_of_le_of_ne (hle later hmem) hne.symm
termination_by times.length
decreasing_by exact Nat.lt_succ_of_le (List.length_filter_le _ _)

theorem pairwise_ascending (times : List Int) : (ascending times).Pairwise (· < ·) :=
  pairwise_eraseDups (Order.pairwise_mergeSort id times)

/-- Times in order do not depend on how often and in which order they were listed. -/
theorem ascending_congr (h : ∀ time, time ∈ times ↔ time ∈ times') :
    ascending times = ascending times' := by
  have hnodup : ∀ times, (ascending times).Nodup := fun times =>
    (pairwise_ascending times).imp ne_of_lt
  have hperm : (ascending times).Perm (ascending times') := by
    refine (List.perm_ext_iff_of_nodup (hnodup times) (hnodup times')).mpr fun time => ?_
    rw [mem_ascending, mem_ascending, h]
  refine hperm.eq_of_pairwise ?_ (pairwise_ascending times) (pairwise_ascending times')
  intro first second _ _ hlt hgt
  exact absurd hlt (lt_asymm hgt)

/-- A single time is in order. -/
theorem ascending_singleton (time : Int) : ascending [time] = [time] := by
  simp [ascending, List.eraseDups_cons]

/-- Times in order begin with the least of them. -/
theorem isLeast_of_head?_ascending {first : Int} (h : (ascending times).head? = some first) :
    IsLeast {time | time ∈ times} first := by
  obtain ⟨rest, hrest⟩ := List.head?_eq_some_iff.mp h
  have hordered := pairwise_ascending times
  rw [hrest] at hordered
  refine ⟨mem_ascending.mp (List.mem_of_head? h), fun time htime => ?_⟩
  have hmem : time ∈ first :: rest := hrest ▸ mem_ascending.mpr htime
  rcases List.mem_cons.mp hmem with rfl | hlater
  · exact Int.le_refl _
  · exact Int.le_of_lt ((List.pairwise_cons.mp hordered).1 time hlater)

/-- Times in order end with the greatest of them. -/
theorem isGreatest_of_getLast?_ascending {last : Int}
    (h : (ascending times).getLast? = some last) : IsGreatest {time | time ∈ times} last := by
  obtain ⟨init, hinit⟩ := List.getLast?_eq_some_iff.mp h
  have hordered := pairwise_ascending times
  rw [hinit] at hordered
  refine ⟨mem_ascending.mp (List.mem_of_getLast? h), fun time htime => ?_⟩
  have hmem : time ∈ init ++ [last] := hinit ▸ mem_ascending.mpr htime
  rcases List.mem_append.mp hmem with hbefore | hself
  · exact Int.le_of_lt ((List.pairwise_append.mp hordered).2.2 time hbefore last List.mem_cons_self)
  · exact Int.le_of_eq (List.mem_singleton.mp hself)

/-! ## One series for all times -/

/-- The prices at some times are those of one series, which reaches from the first of them to the
last. -/
theorem exists_series_of_pricesAt {rates : List (Int × Price)} (hne : times ≠ [])
    (h : Ends (pricesAt (.ok source) times) s rates t) :
    ∃ first last line series,
      IsLeast {time | time ∈ times} first ∧ IsGreatest {time | time ∈ times} last ∧
      Ends (source.prices ⟨first, last⟩) (s.write line) series t ∧
      Forall₂ (fun time (entry : Int × Price) =>
        entry.1 = time ∧ Price.lookup series time = .ok entry.2) (ascending times) rates := by
  obtain ⟨first, last, hfirst, hlast, -, -⟩ := exists_ends_ascending hne
  have hcheck : ∀ (series : List Price) (time : Int),
      (do return (time, ← Price.lookup series time) : Action (Int × Price)) =
        liftM (Prod.mk time <$> Price.lookup series time) := by
    intro series time
    cases Price.lookup series time <;> rfl
  unfold pricesAt at h
  simp only [hfirst, hlast, ends_bind, ends_log, ends_lift, hcheck, ends_mapM_lift] at h
  obtain ⟨_, _, rfl, _, _, ⟨hsource, rfl⟩, series, _, hseries, hrates, rfl⟩ := h
  cases hsource
  refine ⟨first, last, _, series, isLeast_of_head?_ascending hfirst,
    isGreatest_of_getLast?_ascending hlast, hseries, (mapM_eq_ok_iff.mp hrates).imp ?_⟩
  rintro time ⟨_, price⟩ hprice
  cases hlookup : Price.lookup series time with
  | error failure =>
    rw [hlookup] at hprice
    cases hprice
  | ok found =>
    rw [hlookup] at hprice
    cases hprice
    exact ⟨rfl, rfl⟩

/-- A series is in the order of times. -/
theorem pairwise_of_ends_prices {period : Period} {series : List Price}
    (h : Ends (source.prices period) s series t) :
    series.Pairwise fun p q => p.timestamp ≤ q.timestamp := by
  obtain ⟨_, _, _, -, -, hconverts⟩ := ends_prices h
  exact Price.pairwise_of_converts hconverts

/-! ## A single time -/

/-- If no prices are quoted for a time that is over, there is no price at it. -/
theorem outcome_pricesAt_of_unquoted (hmake : make (some config) settings = .ok source)
    {time : Int} (hpast : time ≤ s.now)
    (hquoted : ∀ line, Ends (PriceBackend.prices settings config ⟨time, time⟩) (s.write line) []
      (s.write line)) :
    ∃ line, (pricesAt (.ok source) [time]).outcome s =
      (.error (.price .noPrices), s.write line) := by
  obtain ⟨-, rfl⟩ := make_eq_ok_iff.mp hmake
  have hseries : ∀ line, Ends (prices { config, settings } ⟨time, time⟩)
      (s.write line) [] (s.write line) := by
    intro line
    have hcheck : (Period.mk time time).check { past := true } (s.write line).now = .ok () :=
      Period.check_eq_ok_iff.mpr ⟨Int.le_refl _, by simp, fun _ => hpast⟩
    unfold prices
    simp only [ends_bind, ends_now, ends_lift]
    refine ⟨_, _, ⟨rfl, rfl⟩, (), _, ⟨hcheck, rfl⟩, [], _, hquoted line, ?_⟩
    have hsorted : Price.sort [] = [] := List.mergeSort_nil
    rw [hsorted, convert]
    exact ends_pure.mpr ⟨rfl, rfl⟩
  refine ⟨⟨.debug, "getting prices for: " ++ toString [time].length ++ " requests"⟩, ?_⟩
  unfold pricesAt
  rw [ascending_singleton]
  simp only [List.head?_cons, List.getLast?_singleton]
  unfold Action.log
  rw [outcome_bind, outcome_modify]
  dsimp only
  rw [outcome_bind, outcome_lift]
  dsimp only
  rw [outcome_bind, hseries]
  rfl

/-! ## How times are listed -/

/-- How often and in which order times are listed matters to nothing but the log. -/
theorem mirrors_pricesAt (hmake : make (some config) settings = .ok source)
    (h : ∀ time, time ∈ times ↔ time ∈ times') :
    Mirrors .unlogged Eq (pricesAt (.ok source) times) (pricesAt (.ok source) times') := by
  have hseries := settings.searchRule_ignoresLog.sourcePrices hmake
  unfold pricesAt
  rw [ascending_congr h]
  dsimp only
  split
  · next start stop _ _ =>
    refine (mirrors_log _ _ _ _).bind_eq fun _ => ?_
    rw [lift_ok_bind]
    refine (hseries ⟨start, stop⟩).bind_eq fun series => ?_
    refine Mirrors.mapM_eq (fun time => ?_) _
    exact (mirrors_check _).bind_eq fun price => mirrors_pure rfl
  · exact mirrors_pure rfl

end PriceSource
end NodeLedger
