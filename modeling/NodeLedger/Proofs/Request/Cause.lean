import NodeLedger.Proofs.Record.Cause
import NodeLedger.Request

/-!
# Causes for which a request cannot be read

What a caller gives is read before any price service or the node is asked, so a request fails for
its values only.

Main results:

- Theorem `PriceRequest.covers_config`: the prices that a caller asks for.
- Theorem `Category.covers_parse`: the categories that a caller gives.
- Theorem `ReportRequest.covers_ofParams`: all that the caller of a report gives.
-/

namespace NodeLedger

open NodeLedger.Causes

variable {causes : Causes} [causes.OfValues]

/-! ## Prices -/

/-- The name of a price service that is not known is a fault of the request. -/
@[simp] theorem PriceBackend.covers_ofName (given : Value) : causes.Covers (ofName given) := by
  unfold ofName
  split
  · simp
  · split
    · split <;> simp
    · simp

/-- A currency has to be a text. -/
@[simp] theorem covers_upperText (v : Value) : causes.Covers (upperText v) := by
  unfold upperText
  split <;> simp

/-- The name of a granularity that is not known is a fault of the request. -/
@[simp] theorem Granularity.covers_ofLabel (label : Value) : causes.Covers (ofLabel label) := by
  unfold ofLabel
  split <;> simp

/-- So is a period that is too long for every granularity. -/
@[simp] theorem Granularity.covers_finest (duration : Int) : causes.Covers (finest duration) := by
  unfold finest
  split <;> simp

namespace Price

/-- A price that is given is refused for the fault of its time or its value. -/
@[simp] theorem covers_readPoint (currency : String) (point : Value) :
    causes.Covers (readPoint currency point) := by
  have hpoint : causes.Covers (ofPoint currency point) := by
    simp [ofPoint]
  unfold readPoint
  cases hread : ofPoint currency point with
  | ok price => simp
  | error failure =>
    rw [hread, covers_error] at hpoint
    simp [hpoint]

/-- Prices that are given are refused for the fault of one of them. -/
@[simp] theorem covers_readPoints (currency : String) (points : Value) :
    causes.Covers (readPoints currency points) := by
  simp [readPoints]

/-- That no price is given for the beginning is a fault of the request. -/
@[simp] theorem covers_checkEarlier (prices : List Price) (start : Int) :
    causes.Covers (checkEarlier prices start) := by
  simp [checkEarlier]

end Price

/-- So is a granularity that does not go with the price service, or one that is missing. -/
@[simp] theorem PriceConfig.covers_check (config : PriceConfig) : causes.Covers config.check := by
  unfold check unsupported
  split <;> simp

/-- The prices that a caller asks for are refused for one of these faults. -/
@[simp] theorem PriceRequest.covers_config (request : PriceRequest) (settings : Settings)
    (period : Period) : causes.Covers (request.config settings period) := by
  simp [config, chooseGranularity]

/-! ## Categories -/

namespace Category

/-- The patterns of a category are read from one of its fields. -/
@[simp] theorem covers_givenPatterns (given : Value) : causes.Covers (givenPatterns given) := by
  simp [givenPatterns]

/-- A pattern has to be a text. -/
@[simp] theorem covers_givenPattern (given : Value) : causes.Covers (givenPattern given) := by
  unfold givenPattern
  split <;> simp

variable [Text.CharacterNames]

/-- A text that is no pattern is a fault of the request. -/
@[simp] theorem covers_compilePattern (name : Value) (text : String) :
    causes.Covers (compilePattern name text) := by
  unfold compilePattern
  split <;> simp

/-- So is a pattern that an earlier category has. -/
@[simp] theorem Seen.covers_addPattern (name : Value) (seen : Seen) (given : Value) :
    causes.Covers (seen.addPattern name given) := by
  unfold addPattern
  simp only [covers_bind, covers_givenPattern, covers_compilePattern, true_and]
  intro text _ _ _
  split <;> simp

/-- So is a name that an earlier category has. -/
@[simp] theorem Seen.covers_add (seen : Seen) (given : Value) :
    causes.Covers (seen.add given) := by
  simp [add, addName]

/-- The categories of a caller are refused for one of these faults. -/
@[simp] theorem covers_parse (given : Value) : causes.Covers (parse given) := by
  simp [parse, ofValue, compile]

end Category

/-! ## Reports -/

namespace ReportRequest

/-- A period is refused for a time that is none, and the failure says what was given. -/
@[simp] theorem covers_readPeriod (startTime endTime : Value) (now : Int) :
    causes.Covers (readPeriod startTime endTime now) := by
  have htimes : ∀ startTime, causes.Covers (readTimes startTime endTime now) := by
    intro startTime
    unfold readTimes
    rw [covers_bind]
    refine ⟨by simp, fun start _ => ?_⟩
    cases endTime <;> simp
  unfold readPeriod
  split
  · simp
  · split
    · simp
    next failure hread =>
      have hfailure := htimes startTime
      rw [hread, covers_error] at hfailure
      simp [hfailure]

/-- What the caller of a report gives is refused for what is wrong with it. -/
@[simp] theorem covers_ofParams [Text.CharacterNames] (settings : Settings)
    (params : ReportParams) (now : Int) : causes.Covers (ofParams settings params now) := by
  simp [ofParams]

end ReportRequest

end NodeLedger
