import Gazetteer.Number.Numeral
import Gazetteer.Text.Blank
import Gazetteer.Text.Split

/-!
# Reading whole numbers from texts

A whole number may be written with spaces around it, a sign, single underscores between its digits,
and a point followed by zeros.  Zeros at its front count for nothing, and any number of underscores
may stand among them; they may even stand before a minus sign.

* `readInteger`: the number that a text denotes, or why it denotes none;
* `withoutLeadingZeros?`, `withoutZeroFraction`, `withoutUnderscores`: what is taken away before the
  digits are read;
* `greatestLength`: the number of digits beyond which a numeral is not read.
-/

namespace Gazetteer.Number

open Text

/-- Why a text denotes no whole number. -/
inductive IntegerFault where
  | unreadable
  | tooLong
  deriving DecidableEq, Repr

/-- The greatest number of digits of a numeral, zeros at its front not counted. -/
def greatestLength : Nat := 4300

/-- What follows a run of zeros and underscores whose last character is `last`.  A run that is all
there is, or that a point follows, keeps its last character. -/
def afterZeros? (last : Char) : List Char → Option (List Char)
  | [] => some [last]
  | c :: cs =>
    if c = '0' ∨ c = '_' then afterZeros? c cs
    else if c.isDigit ∨ c = '-' then some (c :: cs)
    else if c = '.' then some (last :: c :: cs)
    else none

/-- A numeral without the zeros at its front; it has to begin with a digit or a minus sign. -/
def withoutLeadingZeros? : List Char → Option (List Char)
  | '0' :: cs => afterZeros? '0' cs
  | c :: cs => if c.isDigit ∨ c = '-' then some (c :: cs) else none
  | [] => none

/-- A numeral without a point that only zeros follow, at least one of them. -/
def withoutZeroFraction (cs : List Char) : List Char :=
  match cutAt '.' cs with
  | (whole, some (z :: zeros)) => if (z :: zeros).all (· = '0') then whole else cs
  | _ => cs

/-- A numeral without its underscores, if each of them stands alone between two characters. -/
def withoutUnderscores (cs : List Char) : List Char :=
  let groups := splitAt '_' cs
  if groups.any List.isEmpty then cs else groups.flatten

/-- The number that a row of digits denotes. -/
def digitsOnly (cs : List Char) : Except IntegerFault Nat :=
  let digits := cs.takeWhile Char.isDigit
  if cs = ['0'] then .ok 0
  else if cs.head? = some '0' then .error .unreadable
  else if greatestLength < digits.length then .error .tooLong
  else if digits.isEmpty || digits.length < cs.length then .error .unreadable
  else .ok (digitsValue digits)

/-- The number that a numeral without a sign in front denotes. -/
def unsigned (cs : List Char) : Except IntegerFault Int :=
  match (withoutLeadingZeros? cs).map (withoutUnderscores ∘ withoutZeroFraction) with
  | none => .error .unreadable
  | some ('-' :: digits) => (digitsOnly digits).map fun n => -(n : Int)
  | some digits => (digitsOnly digits).map Int.ofNat

/-- The number that a numeral with an optional sign denotes; two signs in a row are none. -/
def signed : List Char → Except IntegerFault Int
  | '-' :: '-' :: _ | '+' :: '-' :: _ => .error .unreadable
  | '-' :: cs =>
    match withoutLeadingZeros? cs with
    | some ('-' :: _) => .error .unreadable
    | _ => (unsigned cs).map (- ·)
  | '+' :: cs => unsigned cs
  | cs => unsigned cs

/-- **The whole number that a text denotes.** -/
def readInteger (s : String) : Except IntegerFault Int := signed (trimBy isSpace s.toList)

end Gazetteer.Number
