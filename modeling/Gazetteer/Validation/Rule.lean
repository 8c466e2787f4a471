import Gazetteer.Json.Display
import Gazetteer.Json.Points
import Gazetteer.Url.Reader
import Gazetteer.Validation.Checked

/-!
# Rules for values and for the fields of records

A rule takes a JSON value to a value of the domain.  The rules are lenient: a whole number may be
given as a text or as a number without a fraction, and a truth value as one of a few words.  Texts,
on the other hand, are never made from other values.

* `TextRule.check`, `integer`, `between`, `flag`, `moment`, `address`, `items`: the rules;
* `required`, `withDefault`: a field of a record, looked up under its names in turn.
-/

namespace Gazetteer.Validation

open Number Text

/-! ## Texts -/

/-- A text as such. -/
def anyText : Json → Checked String
  | .text s => .ok s
  | v@(.torn _) => .refuse .textUnreadable v
  | v => .refuse .textExpected v

/-- A text as such, torn or not, by its code points. -/
def textPoints (v : Json) : Checked (List Nat) :=
  match v.points? with
  | some points => .ok points
  | none => .refuse .textExpected v

/-- What a text is held to: its length and its form. -/
structure TextRule where
  least : Nat := 0
  greatest : Option Nat := none
  pattern : Option Pattern := none

namespace TextRule

/-- The first of the demands that a text does not meet. -/
def fault? (rule : TextRule) (cs : List Char) : Option Cause :=
  if cs.length < rule.least then some (.tooShort rule.least)
  else match rule.greatest.filter (· < cs.length) with
    | some greatest => some (.tooLong greatest)
    | none => (rule.pattern.filter (!·.accepts cs)).map .mismatch

/-- **A text that meets all demands.** -/
def check (rule : TextRule) (v : Json) : Checked String :=
  (anyText v).andThen fun s =>
    match rule.fault? s.toList with
    | some cause => .refuse cause v
    | none => .ok s

end TextRule

/-! ## Numbers and truth values -/

/-- The whole numbers that may be given with a point lie strictly within these bounds. -/
def realBound : Int := 0x8000000000000000

/-- The whole number that a number with a point stands for. -/
def integerOfReal (x : Binary64) : Except Cause Int :=
  if !x.isFinite then .error .notFinite
  else match x.toInt? with
    | none => .error .fractional
    | some n => if -realBound < n ∧ n < realBound then .ok n else .error .integerTooLong

/-- **A whole number**, of any size. -/
def integer (v : Json) : Checked Int :=
  match v with
  | .int n => .ok n
  | .bool b => .ok (if b then 1 else 0)
  | .text s =>
    match readInteger s with
    | .ok n => .ok n
    | .error .unreadable => .refuse .integerUnreadable v
    | .error .tooLong => .refuse .integerTooLong v
  | .real x =>
    match integerOfReal x with
    | .ok n => .ok n
    | .error cause => .refuse cause v
  | .torn _ => .refuse .textUnreadable v
  | _ => .refuse .integerExpected v

/-- A whole number from `least` on. -/
def atLeast (least : Int) (v : Json) : Checked Int :=
  (integer v).andThen fun n => if n < least then .refuse (.below least) v else .ok n

/-- **A whole number between two bounds.** -/
def between (least greatest : Int) (v : Json) : Checked Int :=
  (integer v).andThen fun n =>
    if greatest < n then .refuse (.above greatest) v
    else if n < least then .refuse (.below least) v
    else .ok n

/-- The words for true. -/
def trueWords : List String := ["1", "t", "true", "y", "yes", "on"]

/-- The words for false. -/
def falseWords : List String := ["0", "f", "false", "n", "no", "off"]

/-- The truth value that a word stands for, whatever the case of its letters. -/
def flagOfWord? (s : String) : Option Bool :=
  let word := String.ofList (s.toList.map Char.toLower)
  if trueWords.contains word then some true
  else if falseWords.contains word then some false
  else none

/-- The truth value that a whole number stands for, if it is within the bounds of 64 bits. -/
def flagOfInteger (n : Int) : Except Cause Bool :=
  if n = 1 then .ok true
  else if n = 0 then .ok false
  else if -realBound ≤ n ∧ n < realBound then .error .flagUnreadable
  else .error .flagExpected

/-- The truth value that a number with a point stands for. -/
def flagOfReal (x : Binary64) : Except Cause Bool :=
  match x.toInt? with
  | none => .error .flagExpected
  | some n => if n = -realBound then .error .flagExpected else flagOfInteger n

/-- **A truth value.** -/
def flag (v : Json) : Checked Bool :=
  match v with
  | .bool b => .ok b
  | .int n =>
    match flagOfInteger n with
    | .ok b => .ok b
    | .error cause => .refuse cause v
  | .text s =>
    match flagOfWord? s with
    | some b => .ok b
    | none => .refuse .flagUnreadable v
  | .real x =>
    match flagOfReal x with
    | .ok b => .ok b
    | .error cause => .refuse cause v
  | .torn _ => .refuse .textUnreadable v
  | _ => .refuse .flagExpected v

/-- **What one of a few words stands for**, exactly as it is spelt. -/
def oneOf (words : List (String × α)) (v : Json) : Checked α :=
  match v.text?.bind fun s => words.lookup s with
  | some x => .ok x
  | none => .refuse (.unknownWord (words.map (·.1))) v

/-! ## Moments and addresses -/

/-- The result of reading a moment. -/
def ofReading (v : Json) : Except MomentFault Moment → Checked Moment
  | .ok m => .ok m
  | .error fault => .refuse (.noMoment fault) v

/-- **A moment**: a text that denotes one, or a number of seconds since 1970 that is not beyond all
doubles. -/
def moment (v : Json) : Checked Moment :=
  match v with
  | .text s => ofReading v (Moment.read s)
  | .int n =>
    if (Binary64.ofRat n).isFinite then ofReading v (Moment.ofTimestamp n)
    else .refuse .momentExpected v
  | .real x => ofReading v (Moment.ofReal x)
  | .torn _ => .refuse .textUnreadable v
  | _ => .refuse .momentExpected v

/-- **An address of the web.** -/
def webAddress (v : Json) : Checked Address :=
  match v with
  | .text s =>
    match Address.read s with
    | .error fault => .refuse (.addressUnreadable fault) v
    | .ok a => if a.isWeb then .ok a else .refuse .foreignScheme v
  | .torn _ => .refuse .textUnreadable v
  | _ => .refuse .addressExpected v

/-! ## Lists and records -/

/-- **A list whose items obey a rule.** -/
def items (rule : Json → Checked α) (v : Json) : Checked (List α) :=
  match v with
  | .array vs => .all rule vs
  | _ => .refuse .listExpected v

/-- A list with at least `least` items. -/
def itemsAtLeast (least : Nat) (rule : Json → Checked α) (v : Json) : Checked (List α) :=
  (items rule v).andThen fun xs =>
    if xs.length < least then .refuse (.tooFewItems least xs.length) v else .ok xs

/-- A value that may be absent. -/
def optional (rule : Json → Checked α) (v : Json) : Checked (Option α) :=
  match v with
  | .null => .ok none
  | _ => some <$> rule v

/-- **A field that must be given** under one of its names, of which the first goes before the
others. -/
def required (names : List String) (rule : Json → Checked α) (fields : List (String × Json)) :
    Checked α :=
  match Json.firstField? names fields with
  | some (name, v) => (rule v).under (.field name)
  | none => .under (.field (names.headD "")) (.refuse .missing (.object fields))

/-- **A field that may be left out.** -/
def withDefault (names : List String) (default : α) (rule : Json → Checked α)
    (fields : List (String × Json)) : Checked α :=
  match Json.firstField? names fields with
  | some (name, v) => (rule v).under (.field name)
  | none => .ok default

/-- The fields of a record; anything else is refused for the cause given. -/
def record (cause : Cause) (rule : List (String × Json) → Checked α) (v : Json) : Checked α :=
  match v with
  | .object fields => rule fields
  | _ => .refuse cause v

end Gazetteer.Validation
