import NodeLedger.Proofs.Order.StableSort
import NodeLedger.Proofs.Service.Report

/-!
# Calls for exchange rates and estimates

Both calls look up prices at some times.  What such a look-up fails for is answered with the reason,
unless it is passed on; any other answer holds what has been looked up.

Main results:

- Definitions `Service.requiredForRates` and `Service.requiredForEstimate`, and those beside them:
  the arguments of the calls.
- Theorem `Service.ends_answering_iff`: an answer that is no refusal is that of the look-up.
-/

namespace NodeLedger.Service

open NodeLedger.Action

variable {answer : Value} {s t : Session}

/-! ## Times -/

/-- Times are sorted by putting them in order one by one. -/
theorem sort_times_eq_foldr (times : List Int) :
    times.mergeSort (fun a b => decide (a ≤ b)) = times.foldr (Order.insertInOrder id) [] :=
  Order.mergeSort_eq_foldr id times

/-! ## Exchange rates -/

/-- What a caller of exchange rates has to give. -/
def requiredForRates : List String :=
  ["timestamps"]

/-- What a caller of exchange rates may give. -/
def optionalForRates : List String :=
  ["granularity", "fiat_backend", "currency", "custom_prices"]

/-- Exchange rates as an answer. -/
def ratesAnswer (prices : List (Int × Price)) : Value :=
  .object
    [("rates", .list (prices.map fun (time, price) =>
      .object (("timestamp", .int time) :: price.reportFields)))]

/-- Exchange rates are no refusal. -/
theorem ratesAnswer_ne_refusal (prices : List (Int × Price)) (reason : String) :
    ratesAnswer prices ≠ refusal reason := by
  intro h
  simp [ratesAnswer, refusal] at h

/-- An answer that is no refusal is that of what has been done. -/
theorem ends_answering_iff {act : Action Value} (hanswer : ∀ reason, answer ≠ refusal reason) :
    Ends (answering act) s answer t ↔ Ends act s answer t := by
  unfold answering
  simp only [ends_bind, ends_attempt]
  constructor
  · rintro ⟨result, u, hresult, h⟩
    cases result with
    | ok done =>
      obtain ⟨rfl, rfl⟩ := ends_pure.mp h
      exact hresult
    | error failure =>
      dsimp only at h
      split at h
      · exact absurd (ends_pure.mp h).1 (hanswer _)
      · exact absurd h not_ends_throw
  · intro h
    exact ⟨.ok answer, t, h, ends_pure.mpr ⟨rfl, rfl⟩⟩

/-! ## Estimates -/

/-- What a caller of an estimate has to give. -/
def requiredForEstimate : List String :=
  ["amount_msat", "timestamp"]

/-- What a caller of an estimate may give. -/
def optionalForEstimate : List String :=
  ["granularity", "fiat_backend", "currency"]

end NodeLedger.Service
