import Gazetteer.Number.Quantity
import Gazetteer.Time.Moment

/-!
# The clock

The clock shows a number of seconds, which may be negative and have a fraction.  What it shows is an
instant as long as the instant lies in the years 1 to 9999.

* `Clock.advance`: the clock after some more seconds;
* `Instant.ofClock`: the instant that the clock shows, to the microsecond.
-/

namespace Gazetteer

open Number

/-- Why the clock shows nothing that can be worked with. -/
inductive ClockFault where
  /-- Whole seconds that no double can hold were to be added to a double. -/
  | unsummable
  | infinite
  | notANumber
  /-- More days than can be counted in 32 bits. -/
  | beyondWord
  /-- More days than a span of time may have. -/
  | tooManyDays (days : Int)
  /-- A day before the year 1 or after the year 9999. -/
  | beyondCalendar
  deriving DecidableEq, Repr

/-- The wording of a fault. -/
def ClockFault.message : ClockFault → String
  | .unsummable => "int too large to convert to float"
  | .infinite => "cannot convert float infinity to integer"
  | .notANumber => "cannot convert float NaN to integer"
  | .beyondWord => "Python int too large to convert to C int"
  | .tooManyDays days => "days=" ++ intText days ++ "; must have magnitude <= 999999999"
  | .beyondCalendar => "date value out of range"

/-- The clock after some more seconds. -/
def Clock.advance (clock seconds : Quantity) : Except ClockFault Quantity :=
  match clock.add? seconds with
  | some clock => .ok clock
  | none => .error .unsummable

namespace Instant

/-- The microseconds of a finite number of seconds: those of its whole part, and those of its
fraction, first rounded to a double and then, a half going to the even one, to a whole number. -/
def microsecondsOf (x : Rat) : Int :=
  let whole : Int := if x < 0 then x.ceil else x.floor
  whole * 1000000 + roundRat (Binary64.nearest ((x - whole) * 1000000))

/-- The microseconds that a number of seconds comes to. -/
def microseconds : Quantity → Except ClockFault Int
  | .whole n => .ok (n * 1000000)
  | .real .notANumber => .error .notANumber
  | .real (.infinite _) => .error .infinite
  | .real x => .ok (microsecondsOf x.toRat)

/-- The microseconds of a day. -/
def dayLength : Int := 86400000000

/-- The first instant of the year 1. -/
def first : Int := -738885 * dayLength

/-- The first instant after the year 9999. -/
def limit : Int := 2913174 * dayLength

/-- **The instant that the clock shows.** -/
def ofClock (clock : Quantity) : Except ClockFault Instant := do
  let t ← microseconds clock
  let days := t / dayLength
  if days < -0x80000000 ∨ 0x80000000 ≤ days then .error .beyondWord
  else if 999999999 < days.natAbs then .error (.tooManyDays days)
  else if t < first ∨ limit ≤ t then .error .beyondCalendar
  else .ok t

end Instant

end Gazetteer
