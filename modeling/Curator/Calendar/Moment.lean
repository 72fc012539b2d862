import Curator.Number.Binary64
import Curator.Text.Basic
/-!
# Dates and moments

Dates of the calendar, and moments made of a date and a time of day.
-/

set_option autoImplicit false

/-!
## Dates

Dates of the Gregorian calendar extended to the years 1 to 9999, and their day numbers.  Days are
counted from the first of March of year 0, so that a leap day is the last day of its counted year.
-/

namespace Curator.Calendar

structure Date where
  year : Nat
  month : Nat
  day : Nat
  deriving DecidableEq, Repr, Inhabited

namespace Date

def leastYear : Nat := 1

def greatestYear : Nat := 9999

end Date

def isLeapYear (year : Nat) : Bool :=
  year % 4 == 0 && (year % 100 != 0 || year % 400 == 0)

def daysInMonth (year month : Nat) : Nat :=
  if month = 2 then (if isLeapYear year then 29 else 28)
  else if month = 4 ∨ month = 6 ∨ month = 9 ∨ month = 11 then 30
  else 31

/-- Whether the parts name a day of the calendar. -/
def Date.IsValid (d : Date) : Prop :=
  Date.leastYear ≤ d.year ∧ d.year ≤ Date.greatestYear ∧ 1 ≤ d.month ∧ d.month ≤ 12 ∧ 1 ≤ d.day ∧
    d.day ≤ daysInMonth d.year d.month

instance (d : Date) : Decidable d.IsValid :=
  inferInstanceAs (Decidable (_ ∧ _))

/-- The day number of a date: days since the first of March of year 0. -/
def Date.dayNumber (d : Date) : Nat :=
  let year := if d.month ≤ 2 then d.year - 1 else d.year
  let month := if d.month ≤ 2 then d.month + 9 else d.month - 3
  365 * year + year / 4 - year / 100 + year / 400 + (153 * month + 2) / 5 + d.day - 1

def Date.ofDayNumber (n : Nat) : Date :=
  let era := n / 146097
  let dayOfEra := n % 146097
  let yearOfEra :=
    (dayOfEra + dayOfEra / 36524 - dayOfEra / 1460 - dayOfEra / 146096) / 365
  let dayOfYear := dayOfEra + yearOfEra / 100 - 365 * yearOfEra - yearOfEra / 4
  let month := (5 * dayOfYear + 2) / 153
  let day := dayOfYear - (153 * month + 2) / 5 + 1
  if month < 10 then ⟨yearOfEra + era * 400, month + 3, day⟩
  else ⟨yearOfEra + era * 400 + 1, month - 9, day⟩

/-- The day number of 1 January 1970. -/
def epochDay : Nat := 719468

/-- The day number of 1 January of year 1, the first representable day. -/
def firstDay : Nat := 306

/-- The day number after 31 December 9999, the last representable day. -/
def endDay : Nat := 3652365

/-- Days since 1 January 1970. -/
def Date.sinceEpoch (d : Date) : Int :=
  (d.dayNumber : Int) - epochDay

/-- The date a number of days after 1 January 1970, if it is representable. -/
def Date.ofSinceEpoch? (days : Int) : Option Date :=
  let n := days + epochDay
  if (firstDay : Int) ≤ n ∧ n < endDay then some (Date.ofDayNumber n.toNat) else none

/-- The day of the week, Monday being 0. -/
def Date.weekday (d : Date) : Nat :=
  (d.dayNumber + 2) % 7

/-- The Monday that begins the first ISO week of a year, as a day number: the week with the year's
first Thursday. -/
def firstIsoMonday (year : Nat) : Int :=
  let first : Date := ⟨year, 1, 1⟩
  let monday : Int := (first.dayNumber : Int) - first.weekday
  if 3 < first.weekday then monday + 7 else monday

def hasLongIsoYear (year : Nat) : Bool :=
  let first : Date := ⟨year, 1, 1⟩
  first.weekday == 3 || (first.weekday == 2 && isLeapYear year)

/-- The date of a weekday (Monday is 1) in a week of an ISO year; it may fall outside the
representable years only at their ends. -/
def Date.ofIsoWeek? (year week weekday : Nat) : Option Date :=
  if year < leastYear ∨ greatestYear < year then none
  else if week = 0 ∨ 53 < week ∨ (week = 53 ∧ !hasLongIsoYear year) then none
  else if weekday = 0 ∨ 7 < weekday then none
  else
    Date.ofSinceEpoch? (firstIsoMonday year + (week - 1) * 7 + (weekday - 1) - epochDay)

/-- The ISO form with a four-digit year. -/
def Date.isoText (d : Date) : String :=
  Text.padded 4 d.year ++ "-" ++ Text.padded 2 d.month ++ "-" ++ Text.padded 2 d.day

/-- The stamped form, in which years below 1000 have no leading zeros. -/
def Date.stampText (d : Date) : String :=
  toString d.year ++ "-" ++ Text.padded 2 d.month ++ "-" ++ Text.padded 2 d.day

/-!
## Moments

A date with a time of day to the microsecond and, if it is known, the offset of its clock from
universal time.  A moment without an offset is read as universal time.
-/

structure Moment where
  date : Date
  hour : Nat
  minute : Nat
  second : Nat
  microsecond : Nat
  /-- Microseconds the clock is ahead of universal time. -/
  offset : Option Int
  deriving DecidableEq, Repr, Inhabited

def microsPerSecond : Int := 1000000

def secondsPerDay : Int := 86400

def microsPerDay : Int := secondsPerDay * microsPerSecond

namespace Moment

/-- Microseconds since the epoch that the clock shows, its offset left aside. -/
def clockMicros (m : Moment) : Int :=
  m.date.sinceEpoch * microsPerDay +
    ((m.hour * 3600 + m.minute * 60 + m.second : Nat) : Int) * microsPerSecond + m.microsecond

def micros (m : Moment) : Int :=
  m.clockMicros - m.offset.getD 0

/-- The moment whose clock shows the given microseconds since the epoch. -/
def ofClockMicros? (micros : Int) (offset : Option Int) : Option Moment :=
  let days := Int.fdiv micros microsPerDay
  let rest := (Int.fmod micros microsPerDay).toNat
  let seconds := rest / 1000000
  (Date.ofSinceEpoch? days).map fun date =>
    ⟨date, seconds / 3600, seconds / 60 % 60, seconds % 60, rest % 1000000, offset⟩

/-- The moment in universal time; none when that leaves the representable years. -/
def toUniversal? (m : Moment) : Option Moment :=
  ofClockMicros? m.micros (some 0)

/-- The moment a number of microseconds later on the same clock. -/
def shifted? (m : Moment) (micros : Int) : Option Moment :=
  ofClockMicros? (m.clockMicros + micros) m.offset

/-- Whole seconds since the epoch, toward zero, taken of the nearest floating-point number of
seconds. -/
def epochSeconds (m : Moment) : Int :=
  ((Number.Binary64.quotient? m.micros microsPerSecond).bind (·.truncated?)).getD 0

def timeText (m : Moment) : String :=
  Text.padded 2 m.hour ++ ":" ++ Text.padded 2 m.minute ++ ":" ++ Text.padded 2 m.second

/-- The stamp of a moment: date and time of its clock to the second. -/
def stampText (m : Moment) : String :=
  m.date.stampText ++ " " ++ m.timeText

/-- An offset as a sign, hours and minutes, with seconds and microseconds when it has them. -/
def offsetText (offset : Int) : String :=
  let size := offset.natAbs
  let seconds := size / 1000000
  let micros := size % 1000000
  let fraction := if micros = 0 then "" else "." ++ Text.padded 6 micros
  let tail :=
    if seconds % 60 = 0 ∧ micros = 0 then "" else ":" ++ Text.padded 2 (seconds % 60) ++ fraction
  (if offset < 0 then "-" else "+") ++ Text.padded 2 (seconds / 3600) ++ ":" ++
    Text.padded 2 (seconds / 60 % 60) ++ tail

/-- The ISO form with the given mark between date and time. -/
def isoText (m : Moment) (mark : String) : String :=
  m.date.isoText ++ mark ++ m.timeText ++
    (if m.microsecond = 0 then "" else "." ++ Text.padded 6 m.microsecond) ++
    (m.offset.map offsetText).getD ""

/-- Numerical order is defined between two moments that both have an offset or both have none. -/
def compare? (a b : Moment) : Option Ordering :=
  if a.offset.isSome == b.offset.isSome then some (compare a.micros b.micros) else none

end Moment

/-- What prevents a count of seconds from being a moment. -/
inductive EpochFault where
  | notANumber
  | infinite
  /-- The count exceeds 64 bits. -/
  | beyondClock
  /-- The year of the moment is not between 1 and 9999. -/
  | beyondCalendar
  /-- The year of the moment exceeds 32 bits. -/
  | beyondYears
  deriving DecidableEq, Repr

/-- The moment in universal time at a number of microseconds since the epoch. -/
def momentOfMicros (micros : Int) : Except EpochFault Moment :=
  let seconds := Int.fdiv micros microsPerSecond
  if seconds < -Int.pow 2 63 ∨ Int.pow 2 63 ≤ seconds then .error .beyondClock
  else if seconds < -67768040609740800 ∨ 67768036191676799 < seconds then .error .beyondYears
  else
    match Moment.ofClockMicros? micros (some 0) with
    | some moment => .ok moment
    | none => .error .beyondCalendar

/-- The moment in universal time at a whole number of seconds since the epoch. -/
def momentOfSeconds (seconds : Int) : Except EpochFault Moment :=
  momentOfMicros (seconds * microsPerSecond)

/-- The moment in universal time nearest to a floating-point number of seconds since the epoch. -/
def momentOfFloat (seconds : Number.Binary64) : Except EpochFault Moment :=
  match seconds with
  | .nan => .error .notANumber
  | .infinite _ => .error .infinite
  | .finite .. =>
    match seconds.nearestMultiple? 1000000 with
    | some micros => momentOfMicros micros
    | none => .error .notANumber

end Curator.Calendar
