import Gazetteer.Json.Token

/-!
# Reading a JSON text

The tokens are consumed one by one.  What has been read of the values that are still open is kept on
a stack of frames, innermost first; `Reading` says what may come next.  The first token that may not
come is the fault, and so is a bracket that opens a value within more others than are followed, and
a whole number with more digits than are converted.

* `Json.Limits`: how deep values and how long numbers may be;
* `Json.step`: the effect of one token;
* `Json.read`, `Json.readWithin`: the value of a text, or its first fault.
-/

namespace Gazetteer.Json

open Number

/-- **How deep values and how long whole numbers may be.** -/
structure Limits where
  /-- The depth up to which values within values are followed. -/
  depth : Option Nat := none
  /-- The number of digits up to which whole numbers are converted. -/
  digits : Option Nat := none

/-- A value that is still open. -/
inductive Frame where
  /-- An array with the items before the current one. -/
  | items (before : List Json)
  /-- An object with the fields before the current one, and the code points of the current name. -/
  | field (before : List (String × Json)) (name : List Nat)

/-- What may come next, and the values that are open. -/
inductive Reading where
  /-- A value. -/
  | value (open_ : List Frame)
  /-- The first item of an array, or its end. -/
  | firstItem (open_ : List Frame)
  /-- The first name of an object, or its end. -/
  | firstName (open_ : List Frame)
  /-- A further name of an object. -/
  | name (before : List (String × Json)) (open_ : List Frame)
  /-- The colon after a name. -/
  | colon (before : List (String × Json)) (name : List Nat) (open_ : List Frame)
  /-- What may follow a complete value. -/
  | after (value : Json) (open_ : List Frame)

/-- Whether one more value than those that are open would be one too many. -/
def Limits.isTooDeep (limits : Limits) (open_ : List Frame) : Bool :=
  match limits.depth with
  | some n => n ≤ open_.length
  | none => false

/-- What is wrong with a scalar: a whole number may have too many digits. -/
def Limits.problem? (limits : Limits) : Json → Option Problem
  | .int n =>
    let digits := (natDigits n.natAbs).length
    (limits.digits.filter (· < digits)).map (.longInteger digits)
  | _ => none

/-- What comes after a token where a value is expected, `outer` being all values that would be open
around a new one. -/
def startValue (limits : Limits) (offset : Nat) (outer : List Frame) :
    Token → Except Fault Reading
  | .openBrace =>
    if limits.isTooDeep outer then .error ⟨.deepObject, offset⟩ else .ok (.firstName outer)
  | .openBracket =>
    if limits.isTooDeep outer then .error ⟨.deepArray, offset⟩ else .ok (.firstItem outer)
  | .scalar v =>
    match limits.problem? v with
    | some problem => .error ⟨problem, offset⟩
    | none => .ok (.after v outer)
  | .string points => .ok (.after (ofPoints points) outer)
  | .badString fault => .error ⟨fault.problem, offset + fault.offset⟩
  | _ => .error ⟨.expectingValue, offset⟩

/-- What comes after a token where a name is expected. -/
def startName (offset : Nat) (before : List (String × Json)) (open_ : List Frame) :
    Token → Except Fault Reading
  | .string points => .ok (.colon before points open_)
  | .badString fault => .error ⟨fault.problem, offset + fault.offset⟩
  | _ => .error ⟨.expectingName, offset⟩

/-- The fields of an object with one more field. -/
def addField (points : List Nat) (v : Json) (before : List (String × Json)) :
    List (String × Json) :=
  put (fieldName points) (named points v) before

/-- **The effect of one token** within limits. -/
def step (limits : Limits) (offset : Nat) : Reading → Token → Except Fault Reading
  | .value open_, t => startValue limits offset open_ t
  | .firstItem open_, .closeBracket => .ok (.after (.array []) open_)
  | .firstItem open_, t => startValue limits offset (.items [] :: open_) t
  | .firstName open_, .closeBrace => .ok (.after (.object []) open_)
  | .firstName open_, t => startName offset [] open_ t
  | .name before open_, t => startName offset before open_ t
  | .colon before name open_, .colon => .ok (.value (.field before name :: open_))
  | .colon .., _ => .error ⟨.expectingColon, offset⟩
  | .after v (.items before :: open_), .comma => .ok (.value (.items (before ++ [v]) :: open_))
  | .after v (.items before :: open_), .closeBracket =>
    .ok (.after (.array (before ++ [v])) open_)
  | .after v (.field before name :: open_), .comma => .ok (.name (addField name v before) open_)
  | .after v (.field before name :: open_), .closeBrace =>
    .ok (.after (.object (addField name v before)) open_)
  | .after _ (_ :: _), _ => .error ⟨.expectingComma, offset⟩
  | .after _ [], _ => .error ⟨.extraData, offset⟩

/-- What the text is worth when it ends at `offset`. -/
def finish (offset : Nat) : Reading → Except Fault Json
  | .after v [] => .ok v
  | .after _ (_ :: _) => .error ⟨.expectingComma, offset⟩
  | .value _ | .firstItem _ => .error ⟨.expectingValue, offset⟩
  | .firstName _ | .name .. => .error ⟨.expectingName, offset⟩
  | .colon .. => .error ⟨.expectingColon, offset⟩

/-- The effect of a row of tokens. -/
def run (limits : Limits) (reading : Reading) : List (Nat × Token) → Except Fault Reading
  | [] => .ok reading
  | (offset, t) :: rest =>
    match step limits offset reading t with
    | .ok next => run limits next rest
    | .error fault => .error fault

/-- **The value of a JSON text** within limits, or its first fault. -/
def readWithin (limits : Limits) (s : String) : Except Fault Json :=
  match run limits (.value []) (tokens s.toList) with
  | .ok reading => finish s.toList.length reading
  | .error fault => .error fault

/-- **The value of a JSON text** without limits, or its first fault. -/
def read (s : String) : Except Fault Json := readWithin {} s

end Gazetteer.Json
