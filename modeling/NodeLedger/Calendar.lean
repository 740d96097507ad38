import NodeLedger.Failure

/-!
The calendar: days and times of day in coordinated universal time.  Days are counted from the first
of January of the year 1, in the Gregorian calendar throughout; a time has a calendar day if its
year has one to four digits.

* `ofUnix` gives the day and the time of day of a number of seconds since 1970.
* `Date.text` and `readDate` write and read a day as year, month and day with hyphens.
-/

namespace NodeLedger.Calendar

open NodeLedger.Text NodeLedger.Numeral

/-- The seconds of a day. -/
def day : Int := 86400

/-- A day of the calendar. -/
structure Date where
  year : Int
  month : Nat
  dayOfMonth : Nat
  deriving DecidableEq, Repr

/-- Whether a year has 366 days. -/
def isLeap (year : Int) : Bool :=
  year % 4 == 0 && (year % 100 != 0 || year % 400 == 0)

/-- The number of days from the beginning of the count to the beginning of a year. -/
def daysBeforeYear (year : Int) : Int :=
  let past := year - 1
  365 * past + past / 4 - past / 100 + past / 400

/-- The days of the year that are over when each month begins. -/
def monthStarts (leap : Bool) : List Nat :=
  let l := if leap then 1 else 0
  [0, 31, 59 + l, 90 + l, 120 + l, 151 + l, 181 + l, 212 + l, 243 + l, 273 + l, 304 + l, 334 + l]

/-- The number of days of a month. -/
def monthLength (leap : Bool) (month : Nat) : Nat :=
  let ends := (monthStarts leap).drop 1 ++ [if leap then 366 else 365]
  ends.getD (month - 1) 0 - (monthStarts leap).getD (month - 1) 0

/-- The count of a day. -/
def Date.toDays (d : Date) : Int :=
  daysBeforeYear d.year + (monthStarts (isLeap d.year)).getD (d.month - 1) 0 + d.dayOfMonth - 1

/-- The year in which a counted day lies: the mean length of a year gives it up to one year. -/
def yearOf (days : Int) : Int :=
  let guess := 400 * days / 146097 + 1
  if days < daysBeforeYear guess then guess - 1
  else if daysBeforeYear (guess + 1) ≤ days then guess + 1
  else guess

/-- The day with a count. -/
def ofDays (days : Int) : Date :=
  let year := yearOf days
  let dayOfYear := (days - daysBeforeYear year).toNat
  let started := (monthStarts (isLeap year)).filter (· ≤ dayOfYear)
  ⟨year, started.length, dayOfYear - started.getLastD 0 + 1⟩

/-- The count of the first of January 1970. -/
def epoch : Int := 719162

/-- A time: a day and the seconds since its beginning. -/
structure DateTime where
  date : Date
  second : Nat
  deriving DecidableEq, Repr

/-- A year as 32 bits hold it. -/
def wrapYear (year : Int) : Int :=
  Int.bmod year (Nat.pow 2 32)

/-- The day and the time of day of a number of seconds since 1970. -/
def ofUnix (timestamp : Int) : Except Failure DateTime :=
  let date := ofDays (timestamp / day + epoch)
  if timestamp < -Nat.pow 2 63 ∨ Nat.pow 2 63 ≤ timestamp then .error (.oversize .unixTime)
  else if date.year - 1900 < -Nat.pow 2 31 ∨ Nat.pow 2 31 ≤ date.year - 1900 then
    .error (.oversize .calendarYear)
  else if 1 ≤ wrapYear date.year ∧ wrapYear date.year ≤ 9999 then
    .ok ⟨date, (timestamp % day).toNat⟩
  else .error (.value (.yearOutOfRange (wrapYear date.year)))

/-! ## Writing -/

/-- A number in at least so many digits. -/
def padded (width n : Nat) : String :=
  let digits := Nat.toDigits 10 n
  String.ofList (List.replicate (width - digits.length) '0' ++ digits)

/-- A day as year, month and day with hyphens; the year has as many digits as it needs. -/
def Date.text (d : Date) : String :=
  toString d.year ++ "-" ++ padded 2 d.month ++ "-" ++ padded 2 d.dayOfMonth

/-- A time with its day in ten characters, the letter T, and the offset zero behind. -/
def DateTime.text (t : DateTime) : String :=
  padded 4 t.date.year.toNat ++ "-" ++ padded 2 t.date.month ++ "-" ++
    padded 2 t.date.dayOfMonth ++ "T" ++ padded 2 (t.second / 3600) ++ ":" ++
    padded 2 (t.second / 60 % 60) ++ ":" ++ padded 2 (t.second % 60) ++ "+00:00"

/-- The day of a number of seconds since 1970, as text. -/
def dayText (timestamp : Int) : Except Failure String :=
  return (← ofUnix timestamp).date.text

/-- A number of seconds since 1970 as text. -/
def timeText (timestamp : Int) : Except Failure String :=
  return (← ofUnix timestamp).text

/-! ## Reading -/

/-- A year of four digits of any script, and what follows. -/
def readYear? : List Char → Option (Nat × List Char)
  | a :: b :: c :: d :: rest => do
    let w ← digitValue? a
    let x ← digitValue? b
    let y ← digitValue? c
    let z ← digitValue? d
    some (((w * 10 + x) * 10 + y) * 10 + z, rest)
  | _ => none

/-- A month of one or two ASCII digits in front of a hyphen, and what follows the hyphen. -/
def readMonth? : List Char → Option (Nat × List Char)
  | a :: '-' :: rest => do
    let n ← asciiDigit? a
    if n = 0 then none else some (n, rest)
  | a :: b :: '-' :: rest => do
    let n ← asciiDigit? a
    let m ← asciiDigit? b
    if n * 10 + m = 0 ∨ 12 < n * 10 + m then none else some (n * 10 + m, rest)
  | _ => none

/-- One digit from 1 to 9, as a day. -/
def readShortDay? : List Char → Option (Nat × List Char)
  | ' ' :: cs => digit? cs
  | cs => digit? cs
where
  /-- A digit from 1 to 9. -/
  digit? : List Char → Option (Nat × List Char)
    | c :: rest => (asciiDigit? c).bind fun n => if n = 0 then none else some (n, rest)
    | [] => none

/-- A day from 1 to 31, and what follows: two digits if they give one, or else one.  The second
digit of a day from 10 to 29 may be of any script. -/
def readDay? (cs : List Char) : Option (Nat × List Char) :=
  match cs with
  | '3' :: b :: rest =>
    if b == '0' then some (30, rest) else if b == '1' then some (31, rest) else readShortDay? cs
  | '1' :: b :: rest =>
    match digitValue? b with
    | some n => some (10 + n, rest)
    | none => readShortDay? cs
  | '2' :: b :: rest =>
    match digitValue? b with
    | some n => some (20 + n, rest)
    | none => readShortDay? cs
  | '0' :: rest => readShortDay?.digit? rest
  | cs => readShortDay? cs

/-- Year, month and day with hyphens, and what follows. -/
def readParts? (cs : List Char) : Option (Date × List Char) := do
  let (year, rest) ← readYear? cs
  match rest with
  | '-' :: rest =>
    let (month, rest) ← readMonth? rest
    let (dayOfMonth, rest) ← readDay? rest
    some (⟨year, month, dayOfMonth⟩, rest)
  | _ => none

/-- Read a day, as the seconds since 1970 at its beginning. -/
def readDate (s : String) : Except ValueFault Int :=
  match readParts? s.toList with
  | none => .error (.dateFormat s)
  | some (d, rest) =>
    if !rest.isEmpty then .error (.dateRest (String.ofList rest))
    else if d.year < 1 then .error (.yearOutOfRange d.year)
    else if monthLength (isLeap d.year) d.month < d.dayOfMonth then .error .dayOutOfRange
    else .ok ((d.toDays - epoch) * day)

end NodeLedger.Calendar
