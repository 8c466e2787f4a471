import Gazetteer.Number.Binary64
import Gazetteer.Text.Hexadecimal

/-!
# JSON values

`Json` is the value of a JSON text.  Whole numbers and numbers with a point or an exponent are
different values, and an object keeps its fields in the order in which they were first written.  A
string literal may hold one half of a surrogate pair without the other, which is no character; such
a text is torn, and is kept by its code points.

* `Json.field?`: the value of a field;
* `Json.firstField?`: the first of several names under which a field is given;
* `Json.put`, `Json.update`: a field, or several ones, added to an object's fields, or its value
  replaced in place;
* `Json.ofPoints`, `Json.fieldName`, `Json.named`: texts and fields by their code points;
* `Json.isWhole`: whether a value can be written again;
* `Json.encoded`: what is told of a value.
-/

namespace Gazetteer

open Number (Binary64)

/-- **A JSON value.** -/
inductive Json where
  | null
  | bool (b : Bool)
  | int (n : Int)
  | real (x : Binary64)
  | text (s : String)
  /-- A text that holds half a surrogate pair, by its code points. -/
  | torn (points : List Nat)
  | array (items : List Json)
  | object (fields : List (String × Json))
  /-- The value of a field that is not kept under its own name, with the code points of the name. -/
  | misnamed (name : List Nat) (value : Json)
  deriving Repr, Inhabited

namespace Json

/-- The fields with `name` set to `value`, at the place of its first mention. -/
def put (name : String) (value : Json) : List (String × Json) → List (String × Json)
  | [] => [(name, value)]
  | (n, v) :: fields => if n = name then (n, value) :: fields else (n, v) :: put name value fields

/-- The value of a field. -/
def fieldOf? (name : String) (fields : List (String × Json)) : Option Json := fields.lookup name

/-- The value of a field of an object. -/
def field? (name : String) : Json → Option Json
  | .object fields => fieldOf? name fields
  | _ => none

/-- The first of the names that the fields give, and its value. -/
def firstField? (names : List String) (fields : List (String × Json)) : Option (String × Json) :=
  names.findSome? fun name => (fieldOf? name fields).map (name, ·)

mutual
/-- A value in the place of an older one; of two objects the fields are put together. -/
def merged (old : Json) : Json → Json
  | .object fields =>
    match old with
    | .object before => .object (update before fields)
    | _ => .object fields
  | v => v

/-- **Fields with further ones**, which replace the values of the fields that are there. -/
def update (before : List (String × Json)) : List (String × Json) → List (String × Json)
  | [] => before
  | (name, v) :: fields =>
    match fieldOf? name before with
    | some old => update (put name (merged old v) before) fields
    | none => update (before ++ [(name, v)]) fields
end

/-- A text, or nothing. -/
def ofText? : Option String → Json
  | some s => .text s
  | none => .null

/-- A value that is a text. -/
def text? : Json → Option String
  | .text s => some s
  | _ => none

/-! ## Torn texts -/

/-- Whether a code point is half a surrogate pair. -/
def isHalf (point : Nat) : Bool := 0xD800 ≤ point && point ≤ 0xDFFF

/-- The text with the given code points. -/
def ofPoints (points : List Nat) : Json :=
  if points.any isHalf then .torn points else .text (String.ofList (points.map Char.ofNat))

/-- The character that announces the digits of a code point in the name of a field. -/
def escapePoint : Nat := 0xFFFD

/-- Whether a code point does not stand for itself in the name of a field. -/
def isEscaped (point : Nat) : Bool := isHalf point || point = escapePoint

/-- A code point in the name of a field.  Half a surrogate pair is written in hexadecimal digits
after the character that announces them, and that character twice. -/
def nameChars (point : Nat) : List Char :=
  if isHalf point then Char.ofNat escapePoint :: Text.hexPadded 4 point
  else if point = escapePoint then [Char.ofNat escapePoint, Char.ofNat escapePoint]
  else [Char.ofNat point]

/-- **The name by which a field is found among others**, another one for each row of code points. -/
def fieldName (points : List Nat) : String := String.ofList (points.flatMap nameChars)

/-- The value of a field as the value of a field with the given name. -/
def named (points : List Nat) (v : Json) : Json :=
  if points.any isEscaped then .misnamed points v else v

mutual
/-- **Whether a value can be written again**: every number in it is finite and no text is torn. -/
def isWhole : Json → Bool
  | .real x => x.isFinite
  | .torn _ => false
  | .misnamed name v => !name.any isHalf && isWhole v
  | .array items => isWholeItems items
  | .object fields => isWholeFields fields
  | .null | .bool _ | .int _ | .text _ => true

def isWholeItems : List Json → Bool
  | [] => true
  | v :: vs => isWhole v && isWholeItems vs

def isWholeFields : List (String × Json) → Bool
  | [] => true
  | (_, v) :: fields => isWhole v && isWholeFields fields
end

/-! ## What is told of a value -/

/-- Whether a field is kept back: its name begins like those of the attributes that a mapping to
tables adds to a record. -/
def isHidden (name : String) : Bool := "_sa".toList.isPrefixOf name.toList

mutual
/-- **What is told of a value**: all of it but the fields that are kept back. -/
def encoded : Json → Json
  | .array items => .array (encodedItems items)
  | .object fields => .object (encodedFields fields)
  | .misnamed name v => .misnamed name (encoded v)
  | v => v

def encodedItems : List Json → List Json
  | [] => []
  | v :: vs => encoded v :: encodedItems vs

def encodedFields : List (String × Json) → List (String × Json)
  | [] => []
  | (name, v) :: fields =>
    if isHidden name then encodedFields fields else (name, encoded v) :: encodedFields fields
end

end Json

end Gazetteer
