import Gazetteer.Number.Binary64
import Gazetteer.Text.Utf8
import Gazetteer.Time.Moment

/-!
# Reading dates and times

A moment is written as a date, one of the separators `T`, `t`, `_` and the space, hours and minutes,
optionally seconds and a fraction of them, and optionally an offset.  A date alone is the first
moment of its day, and a number counts seconds (or milliseconds, beyond twenty thousand million)
since 1970.  The year zero can be written, but no moment lies in it.

* `Moment.read`: the moment that a text denotes, or why it denotes none;
* `Moment.ofTimestamp`, `Moment.ofReal`: the moment that a number denotes.
-/

namespace Gazetteer

open Number Text

/-- What can be wrong with a date. -/
inductive DateFault where
  | tooShort
  | yearCharacter
  | separator
  | monthCharacter
  | dayCharacter
  | monthRange
  | dayRange
  | extraCharacters
  | tooEarly
  | tooLate
  deriving DecidableEq, Repr

/-- The wording of a fault. -/
def DateFault.message : DateFault → String
  | .tooShort => "input is too short"
  | .yearCharacter => "invalid character in year"
  | .separator => "invalid date separator, expected `-`"
  | .monthCharacter => "invalid character in month"
  | .dayCharacter => "invalid character in day"
  | .monthRange => "month value is outside expected range of 1-12"
  | .dayRange => "day value is outside expected range"
  | .extraCharacters => "unexpected extra characters at the end of the input"
  | .tooEarly => "dates before 0000 are not supported as unix timestamps"
  | .tooLate => "dates after 9999 are not supported as unix timestamps"

/-- Why a value denotes no moment. -/
inductive MomentFault where
  /-- A text that is neither a moment nor a date. -/
  | unreadable (fault : DateFault)
  /-- A number that is out of range. -/
  | outOfRange (fault : DateFault)
  | yearZero
  | notANumber
  deriving DecidableEq, Repr

/-- The wording of a fault. -/
def MomentFault.message : MomentFault → String
  | .unreadable fault | .outOfRange fault => fault.message
  | .yearZero => "year 0 is out of range"
  | .notANumber => "NaN values not permitted"

/-- The number written by `count` digits at the front of a text, and the rest. -/
def digitsAtFront? (count : Nat) (cs : List Char) : Option (Nat × List Char) :=
  let digits := cs.take count
  if digits.length = count && digits.all Char.isDigit then some (digitsValue digits, cs.drop count)
  else none

/-- The rest of a text after a character that it must begin with. -/
def afterChar? (c : Char) : List Char → Option (List Char)
  | d :: cs => if d = c then some cs else none
  | [] => none

/-- The date at the front of a text, and the rest. -/
def Date.atFront (cs : List Char) : Except DateFault (Date × List Char) :=
  if cs.length < 10 then .error .tooShort
  else match digitsAtFront? 4 cs with
    | none => .error .yearCharacter
    | some (year, cs) => match afterChar? '-' cs with
      | none => .error .separator
      | some cs => match digitsAtFront? 2 cs with
        | none => .error .monthCharacter
        | some (month, cs) => match afterChar? '-' cs with
          | none => .error .separator
          | some cs => match digitsAtFront? 2 cs with
            | none => .error .dayCharacter
            | some (day, cs) =>
              if month = 0 ∨ 12 < month then .error .monthRange
              else if day = 0 ∨ Date.monthLength year month < day then .error .dayRange
              else .ok (⟨year, month, day⟩, cs)

namespace Moment

/-- The first six of a row of digits, filled up with zeros: a fraction in millionths. -/
def millionths (digits : List Char) : Nat :=
  digitsValue (digits.take 6) * Nat.pow 10 (6 - digits.length)

/-- The seconds and their fraction, if there are any, and the rest. -/
def secondsAtFront? : List Char → Option (Nat × Nat × List Char)
  | ':' :: cs => do
    let (second, cs) ← digitsAtFront? 2 cs
    if 59 < second then none
    match cs with
    | c :: cs =>
      if c = '.' ∨ c = ',' then
        let digits := cs.takeWhile Char.isDigit
        if digits.isEmpty then none
        else some (second, millionths digits, cs.drop digits.length)
      else some (second, 0, c :: cs)
    | [] => some (second, 0, [])
  | cs => some (0, 0, cs)

/-- The sign at the front of an offset; the octets are those of a hyphen or of a minus sign. -/
def signAtFront? : List Char → Option (Int × List Char)
  | '+' :: cs => some (1, cs)
  | '-' :: cs => some (-1, cs)
  | '\xE2' :: '\x88' :: '\x92' :: cs => some (-1, cs)
  | _ => none

/-- An offset that makes up the whole text, none for the empty text. -/
def offset? (cs : List Char) : Option (Option Int) :=
  match cs with
  | [] => some none
  | ['Z'] | ['z'] => some (some 0)
  | cs => do
    let (sign, cs) ← signAtFront? cs
    let (hours, cs) ← digitsAtFront? 2 cs
    let (minutes, cs) ← digitsAtFront? 2 (match cs with
      | ':' :: cs => cs
      | cs => cs)
    if 59 < minutes ∨ 23 < hours ∨ !cs.isEmpty then none
    else some (some (sign * (60 * hours + minutes) * minuteLength))

/-- Whether a character may stand between a date and a time. -/
def isSeparator (c : Char) : Bool := c = 'T' || c = 't' || c = '_' || c = ' '

/-- The moment written by a whole text with a time of day. -/
def withTime? (cs : List Char) : Option Moment := do
  let (date, cs) ← (Date.atFront cs).toOption
  let (separator, cs) ← cs.head?.map (·, cs.tail)
  if !isSeparator separator then none
  let (hour, cs) ← digitsAtFront? 2 cs
  let cs ← afterChar? ':' cs
  let (minute, cs) ← digitsAtFront? 2 cs
  if 23 < hour ∨ 59 < minute then none
  let (second, microsecond, cs) ← secondsAtFront? cs
  let offset ← offset? cs
  some ⟨date, hour, minute, second, microsecond, offset⟩

/-! ## Numbers -/

/-- The greatest number that counts seconds; a greater one counts milliseconds. -/
def greatestSeconds : Nat := 20000000000

/-- The first second of the year zero. -/
def firstSecond : Int := -62167219200

/-- The first second of the year one. -/
def firstOfYearOne : Int := -62135596800

/-- The last second of the year 9999. -/
def lastSecond : Int := 253402300799

/-- The moment some seconds and microseconds after 1970. -/
def afterEpoch (seconds : Int) (microseconds : Nat) : Except MomentFault Moment :=
  if seconds < firstSecond then .error (.outOfRange .tooEarly)
  else if lastSecond < seconds then .error (.outOfRange .tooLate)
  else if seconds < firstOfYearOne then .error .yearZero
  else .ok (.ofMicroseconds (((epochSeconds + seconds) * 1000000).toNat + microseconds) (some 0))

/-- **The moment that a whole number denotes.** -/
def ofTimestamp (n : Int) : Except MomentFault Moment :=
  if greatestSeconds < n.natAbs then afterEpoch (n.fdiv 1000) ((n.fmod 1000).toNat * 1000)
  else afterEpoch n 0

/-- The whole seconds of a number, rounded down, and the microseconds beyond them, a half of one
rounded up.  Both the fraction and its microseconds are taken as doubles. -/
def secondsOf (x : Rat) : Int × Nat :=
  let fraction := Binary64.nearest (x - x.floor)
  let microseconds := (Binary64.nearest (fraction * 1000000) + mkRat 1 2).floor.toNat
  (x.floor + microseconds / 1000000, microseconds % 1000000)

/-- **The moment that a number with a point denotes.** -/
def ofReal : Binary64 → Except MomentFault Moment
  | .notANumber => .error .notANumber
  | .infinite negative => .error (.outOfRange (if negative then .tooEarly else .tooLate))
  | x@(.finite ..) =>
    let value := x.toRat
    let inSeconds := if (greatestSeconds : Rat) < value ∨ value < -(greatestSeconds : Rat) then
        Binary64.nearest (value / 1000) else value
    let (seconds, microseconds) := secondsOf inSeconds
    afterEpoch seconds microseconds

/-! ## Numbers and dates as texts -/

/-- The integer that a whole text is, if it is one of 64 bits. -/
def integer? (digits : List Char) : Option Int :=
  if digits.isEmpty || !digits.all Char.isDigit || 0x8000000000000000 ≤ digitsValue digits then none
  else some (digitsValue digits)

/-- The exponent that a whole text is: nothing, or a sign that may be missing and digits after the
letter. -/
def exponent? : List Char → Option Int
  | [] => some 0
  | c :: cs =>
    if c ≠ 'e' ∧ c ≠ 'E' then none
    else
      let (isNegative, digits) := match cs with
        | '-' :: cs => (true, cs)
        | '+' :: cs => (false, cs)
        | cs => (false, cs)
      if digits.isEmpty || !digits.all Char.isDigit then none
      else some (if isNegative then -(digitsValue digits : Int) else digitsValue digits)

/-- The double that a whole text with a point is, if it is one. -/
def real? (isNegative : Bool) (cs : List Char) : Option Binary64 :=
  let whole := cs.takeWhile Char.isDigit
  match cs.drop whole.length with
  | '.' :: rest =>
    let fraction := rest.takeWhile Char.isDigit
    if whole.isEmpty && fraction.isEmpty then none
    else (exponent? (rest.drop fraction.length)).map fun exponent =>
      .ofDecimal isNegative (digitsValue (whole ++ fraction)) (exponent - fraction.length)
  | _ => none

/-- The moment that a date alone denotes. -/
def atDate (cs : List Char) : Except MomentFault Moment :=
  match Date.atFront cs with
  | .ok (date, []) => .ok ⟨date, 0, 0, 0, 0, none⟩
  | .ok _ => .error (.unreadable .extraCharacters)
  | .error fault => .error (.unreadable fault)

/-- The sign in front of a text, and the rest. -/
def signed : List Char → Bool × List Char
  | '-' :: cs => (true, cs)
  | '+' :: cs => (false, cs)
  | cs => (false, cs)

/-- The moment that a text without a time of day denotes.  A number with a point that is out of
range is taken for a date. -/
def ofNumeral (cs : List Char) : Except MomentFault Moment :=
  let (isNegative, digits) := signed cs
  match integer? digits, real? isNegative digits with
  | some n, _ =>
    match ofTimestamp (if isNegative then -n else n) with
    | .error (.outOfRange fault) => .error (.unreadable fault)
    | m => m
  | none, some x =>
    match ofReal x with
    | .error (.outOfRange _) => atDate cs
    | m => m
  | none, none => atDate cs

/-- A moment, unless it lies in the year zero. -/
def checked (m : Moment) : Except MomentFault Moment :=
  if m.date.year = 0 then .error .yearZero else .ok m

/-- **The moment that a text denotes**, or why it denotes none. -/
def read (s : String) : Except MomentFault Moment :=
  let cs := (Utf8.encode s.toList).map Char.ofNat
  match withTime? cs with
  | some m => checked m
  | none => (ofNumeral cs).bind checked

end Moment

end Gazetteer
