import NodeLedger.Calendar

/-!
Granularities of price series: how far apart the prices are, and how long a period one query may
cover.  A period is covered by at most five queries.
-/

namespace NodeLedger

/-- How fine a series of prices is, in seconds. -/
structure Granularity where
  /-- The distance of two prices. -/
  aggregation : Int
  /-- The longest period of one query. -/
  maximumQuery : Int
  label : String
  deriving DecidableEq, Repr

/-- The most queries that a period is split into. -/
def maxQueries : Int := 5

namespace Granularity

/-- The seconds of a minute. -/
def minute : Int := 60

/-- The seconds of an hour. -/
def hour : Int := 3600

/-- Prices of every minute. -/
def minutely : Granularity := ⟨minute, Calendar.day, "m1"⟩

/-- Prices of every hour. -/
def hourly : Granularity := ⟨hour, 30 * Calendar.day, "h1"⟩

/-- Prices of every day. -/
def daily : Granularity := ⟨Calendar.day, 7305 * Calendar.day, "d1"⟩

/-- All granularities, the finest first. -/
def all : List Granularity :=
  [minutely,
   ⟨5 * minute, 5 * Calendar.day, "m5"⟩,
   ⟨15 * minute, 7 * Calendar.day, "m15"⟩,
   ⟨30 * minute, 14 * Calendar.day, "m30"⟩,
   hourly,
   ⟨6 * hour, 183 * Calendar.day, "h6"⟩,
   ⟨12 * hour, 365 * Calendar.day, "h12"⟩,
   daily]

/-- The longest period that can be covered. -/
def reach (granularity : Granularity) : Int :=
  granularity.maximumQuery * maxQueries

/-- The granularity with a label, which has to be one. -/
def ofLabel (label : Value) : Except Failure Granularity :=
  match all.find? fun granularity => label.isText granularity.label with
  | some granularity => .ok granularity
  | none => .error (.request (.unknownGranularity label.display))

/-- The finest granularity that covers so many seconds. -/
def finest (duration : Int) : Except Failure Granularity :=
  match all.find? fun granularity => decide (duration ≤ granularity.reach) with
  | some granularity => .ok granularity
  | none => .error (.request .queryTooLong)

end Granularity

end NodeLedger
