import TaskQueue.Time.Duration

/-!
# `TaskQueue.Time.Calendar`: dates and instants

Dates are those of the proleptic Gregorian calendar, in the years `firstYear` to `lastYear`.
An instant counts seconds from the start of 1970 in UTC, with nanoseconds on top; nanoseconds
past a full second stand for a leap second.
-/

set_option autoImplicit false

namespace TaskQueue

/-- A day of the calendar. -/
structure Date where
  year : Int
  month : Nat
  day : Nat
deriving DecidableEq, Repr

namespace Date

/-- The first year that dates can have. -/
def firstYear : Int := -262143

/-- The last year that dates can have. -/
def lastYear : Int := 262142

/-- Every fourth year has a leap day, except for full centuries that 400 does not divide. -/
def isLeap (year : Int) : Bool := year % 4 == 0 && (year % 100 != 0 || year % 400 == 0)

/-- The number of days of a month; no month past the twelfth has any. -/
def monthLength (year : Int) : Nat → Nat
  | 1 | 3 | 5 | 7 | 8 | 10 | 12 => 31
  | 4 | 6 | 9 | 11 => 30
  | 2 => if isLeap year then 29 else 28
  | _ => 0

/-- Whether the year is in range and the day exists. -/
def exists? (d : Date) : Bool :=
  firstYear ≤ d.year && d.year ≤ lastYear && 1 ≤ d.day && d.day ≤ monthLength d.year d.month

/-- Days from the start of 1970 to the date. Years are taken to begin in March, so that the
leap day is the last of its year. -/
def toDays (d : Date) : Int :=
  let y := if d.month ≤ 2 then d.year - 1 else d.year
  let m : Int := (d.month + 9) % 12
  let era := y / 400
  let yearOfEra := y % 400
  let dayOfYear := (153 * m + 2) / 5 + (d.day - 1)
  let dayOfEra := yearOfEra * 365 + yearOfEra / 4 - yearOfEra / 100 + dayOfYear
  era * 146097 + dayOfEra - 719468

/-- The date so many days after the start of 1970. -/
def ofDays (days : Int) : Date :=
  let z := days + 719468
  let era := z / 146097
  let dayOfEra := z % 146097
  let yearOfEra := (dayOfEra - dayOfEra / 1460 + dayOfEra / 36524 - dayOfEra / 146096) / 365
  let dayOfYear := dayOfEra - (365 * yearOfEra + yearOfEra / 4 - yearOfEra / 100)
  let m := (5 * dayOfYear + 2) / 153
  let day := dayOfYear - (153 * m + 2) / 5 + 1
  let month := if m < 10 then m + 3 else m - 9
  ⟨yearOfEra + era * 400 + (if month ≤ 2 then 1 else 0), month.toNat, day.toNat⟩

/-- The year with at least four digits, and with its sign outside of the years 0 to 9999. -/
def yearChars (year : Int) : List Char :=
  let digits := Duration.padded 4 year.natAbs
  if year < 0 then '-' :: digits else if 9999 < year then '+' :: digits else digits

/-- The date as year, month and day with dashes between them. -/
def chars (d : Date) : List Char :=
  yearChars d.year ++ '-' :: (Duration.padded 2 d.month ++ '-' :: Duration.padded 2 d.day)

end Date

/-- A point in time. -/
structure Instant where
  seconds : Int
  nanos : Nat
deriving DecidableEq, Repr

namespace Instant

/-- The day of an instant. -/
def date (t : Instant) : Date := Date.ofDays (t.seconds / 86400)

/-- The instant, if its year is in range and its nanoseconds are those of a second, or of a
leap second at the end of a minute. -/
def ofSeconds? (seconds : Int) (nanos : Nat) : Option Instant :=
  let t : Instant := ⟨seconds, nanos⟩
  if Date.firstYear ≤ t.date.year ∧ t.date.year ≤ Date.lastYear ∧
      (nanos < 1000000000 ∨ (nanos < 2000000000 ∧ seconds % 60 = 59)) then some t
  else none

/-- The instant so many seconds later, if it is in range. -/
def after? (t : Instant) (seconds : Int) : Option Instant :=
  ofSeconds? (t.seconds + seconds)
    (if t.nanos < 1000000000 then t.nanos else t.nanos - 1000000000)

/-- The time of day to the microsecond; a leap second is shown as second 60. -/
def timeChars (t : Instant) : List Char :=
  let s := (t.seconds % 86400).toNat
  let (second, nanos) :=
    if t.nanos < 1000000000 then (s % 60, t.nanos) else (s % 60 + 1, t.nanos - 1000000000)
  Duration.padded 2 (s / 3600) ++ ':' :: (Duration.padded 2 (s / 60 % 60) ++
    ':' :: (Duration.padded 2 second ++ '.' :: Duration.padded 6 (nanos / 1000)))

/-- The instant as it stands in an envelope: date, time of day, and the offset of UTC. -/
def text (t : Instant) : String :=
  String.ofList (t.date.chars ++ 'T' :: (t.timeChars ++ ['+', '0', '0', ':', '0', '0']))

end Instant
end TaskQueue
