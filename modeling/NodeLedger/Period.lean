import NodeLedger.Failure

/-!
Periods of time.  A period reaches from its start, which belongs to it, to its stop, which does not,
both in seconds since 1970.  A request may rule out the empty period and periods that are not over.
-/

namespace NodeLedger

/-- The times from a start up to a stop. -/
structure Period where
  start : Int
  stop : Int
  deriving DecidableEq, Repr

/-- What a request demands of its period, besides that it does not end before it starts. -/
structure PeriodRules where
  /-- The period is not empty. -/
  nonempty : Bool := false
  /-- The period is over by now. -/
  past : Bool := false
  deriving DecidableEq, Repr

namespace Period

/-- Whether a time lies in a period. -/
def contains (period : Period) (time : Int) : Bool :=
  decide (period.start ≤ time) && decide (time < period.stop)

/-- Check a period at a time. -/
def check (period : Period) (rules : PeriodRules) (now : Int) : Except Failure Unit :=
  if period.stop < period.start then
    .error (.request (.endBeforeStart period.start period.stop))
  else if rules.nonempty && period.start == period.stop then .error (.request .zeroRange)
  else if rules.past && decide (now < period.stop) then .error (.request .futureRange)
  else .ok ()

/-- A time lies in a period if it is at or after its start and before its stop. -/
theorem contains_iff (period : Period) (time : Int) :
    period.contains time = true ↔ period.start ≤ time ∧ time < period.stop := by
  simp [contains]

end Period

end NodeLedger
