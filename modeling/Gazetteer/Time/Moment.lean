import Gazetteer.Number.Numeral
import Gazetteer.Number.Rounding

/-!
# Dates and times of day

A `Moment` is a date and a time of day to the microsecond, with or without an offset from universal
time, which is known as exactly.  An `Instant` is what the tables keep: the microseconds since the
clock stood at zero.

* `Moment.text`: `YYYY-MM-DDTHH:MM:SS`, six more digits if the microseconds are not zero, and the
  offset as `Z` or `±HH:MM` if there is one;
* `Instant.moment`: the date and time at an instant.
-/

namespace Gazetteer

open Number

/-- A day of the Gregorian calendar. -/
structure Date where
  year : Nat
  month : Nat
  day : Nat
  deriving DecidableEq, Repr

namespace Date

def isLeapYear (year : Nat) : Bool := year % 4 = 0 && (year % 100 ≠ 0 || year % 400 = 0)

/-- The number of days of a month, zero for a number that is no month. -/
def monthLength (year month : Nat) : Nat :=
  match month with
  | 1 | 3 | 5 | 7 | 8 | 10 | 12 => 31
  | 4 | 6 | 9 | 11 => 30
  | 2 => if isLeapYear year then 29 else 28
  | _ => 0

/-- The day `n` days after 0000-03-01.  Years are counted from March here, so that the leap day is
the last day of its year, and grouped into eras of four hundred. -/
def ofDayNumber (n : Nat) : Date :=
  let era := n / 146097
  let dayOfEra := n % 146097
  let yearOfEra := (dayOfEra - dayOfEra / 1460 + dayOfEra / 36524 - dayOfEra / 146096) / 365
  let dayOfYear := dayOfEra - (365 * yearOfEra + yearOfEra / 4 - yearOfEra / 100)
  let monthFromMarch := (5 * dayOfYear + 2) / 153
  let day := dayOfYear - (153 * monthFromMarch + 2) / 5 + 1
  let month := if monthFromMarch < 10 then monthFromMarch + 3 else monthFromMarch - 9
  let year := era * 400 + yearOfEra + (if month ≤ 2 then 1 else 0)
  ⟨year, month, day⟩

/-- A date as `YYYY-MM-DD`. -/
def text (d : Date) : String := padded 4 d.year ++ "-" ++ padded 2 d.month ++ "-" ++ padded 2 d.day

end Date

/-- **A date and a time of day.** -/
structure Moment where
  date : Date
  hour : Nat
  minute : Nat
  second : Nat
  microsecond : Nat
  /-- Microseconds ahead of universal time, if the offset is known. -/
  offset : Option Int
  deriving DecidableEq, Repr

namespace Moment

/-- The microseconds of a minute. -/
def minuteLength : Int := 60000000

/-- The whole seconds nearest to some microseconds, a half of one away from zero. -/
def nearestSeconds (microseconds : Int) : Int :=
  microseconds.sign * ((microseconds.natAbs + 500000) / 1000000 : Nat)

/-- An offset as `Z` or `±HH:MM`.  It is rounded to seconds, and what is left of a minute is not
written. -/
def offsetText (microseconds : Int) : String :=
  let seconds := nearestSeconds microseconds
  if seconds = 0 then "Z"
  else (if seconds < 0 then "-" else "+") ++ padded 2 (seconds.natAbs / 3600) ++ ":"
    ++ padded 2 (seconds.natAbs / 60 % 60)

/-- **A moment in writing.** -/
def text (m : Moment) : String :=
  m.date.text ++ "T" ++ padded 2 m.hour ++ ":" ++ padded 2 m.minute ++ ":" ++ padded 2 m.second
    ++ (if m.microsecond = 0 then "" else "." ++ padded 6 m.microsecond)
    ++ (match m.offset with
      | none => ""
      | some microseconds => offsetText microseconds)

/-- The moment `microseconds` after 0000-03-01T00:00:00, which no moment here precedes. -/
def ofMicroseconds (microseconds : Nat) (offset : Option Int) : Moment :=
  let seconds := microseconds / 1000000
  let inDay := seconds % 86400
  { date := .ofDayNumber (seconds / 86400)
    hour := inDay / 3600
    minute := inDay / 60 % 60
    second := inDay % 60
    microsecond := microseconds % 1000000
    offset := offset }

/-- The seconds from 0000-03-01 to 1970-01-01. -/
def epochSeconds : Nat := 719468 * 86400

end Moment

/-- **An instant**: the microseconds since the clock stood at zero, which it did at
2024-01-01T00:00:00. -/
abbrev Instant := Int

namespace Instant

/-- The seconds from 0000-03-01 to the zero of the clock. -/
def zeroSeconds : Nat := Moment.epochSeconds + 1704067200

/-- The date and time at an instant. -/
def moment (t : Instant) : Moment :=
  .ofMicroseconds (zeroSeconds * 1000000 + t).toNat none

end Instant

end Gazetteer
