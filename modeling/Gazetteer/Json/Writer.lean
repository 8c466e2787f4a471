import Gazetteer.Json.Basic
import Gazetteer.Number.Shortest
import Gazetteer.Text.Hexadecimal

/-!
# Writing a JSON text

`Json.render` writes a value without any space between its tokens, and `Json.render?` does so if
that is possible without half a surrogate pair and without an infinite number.  In a string the
quote, the backslash and the controls below the space are escaped, by a letter where there is one;
all other characters stand for themselves, and half a surrogate pair is written by its code.
-/

namespace Gazetteer.Json

open Number Text

/-- The character that stands behind a backslash for a character. -/
def escapeLetter? : Char → Option Char
  | '"' => some '"'
  | '\\' => some '\\'
  | '\x08' => some 'b'
  | '\x0c' => some 'f'
  | '\n' => some 'n'
  | '\r' => some 'r'
  | '\t' => some 't'
  | _ => none

/-- A character within a string literal. -/
def literalChar (c : Char) : List Char :=
  match escapeLetter? c with
  | some letter => ['\\', letter]
  | none => if c.toNat < 0x20 then '\\' :: 'u' :: hexPadded 4 c.toNat else [c]

/-- A string literal. -/
def literal (s : String) : List Char := '"' :: s.toList.flatMap literalChar ++ ['"']

/-- A code point within a string literal. -/
def literalPoint (point : Nat) : List Char :=
  if isHalf point then '\\' :: 'u' :: hexPadded 4 point else literalChar (Char.ofNat point)

/-- A string literal by the code points of its text. -/
def literalOfPoints (points : List Nat) : List Char := '"' :: points.flatMap literalPoint ++ ['"']

/-- The name of a field, which a torn name takes the place of. -/
def nameLiteral (name : String) : Json → List Char
  | .misnamed points _ => literalOfPoints points
  | _ => literal name

/-- A number with a point or an exponent. -/
def realText : Binary64 → String
  | .notANumber => "NaN"
  | .infinite negative => if negative then "-Infinity" else "Infinity"
  | x => x.text

mutual
/-- The characters of a value. -/
def chars : Json → List Char
  | .null => "null".toList
  | .bool b => (if b then "true" else "false").toList
  | .int n => (intText n).toList
  | .real x => (realText x).toList
  | .text s => literal s
  | .torn points => literalOfPoints points
  | .array items => '[' :: itemChars items
  | .object fields => '\x7b' :: fieldChars fields
  | .misnamed _ v => chars v

/-- The items of an array and its end. -/
def itemChars : List Json → List Char
  | [] => [']']
  | [v] => chars v ++ [']']
  | v :: w :: vs => chars v ++ ',' :: itemChars (w :: vs)

/-- The fields of an object and its end. -/
def fieldChars : List (String × Json) → List Char
  | [] => ['\x7d']
  | [(n, v)] => nameLiteral n v ++ ':' :: chars v ++ ['\x7d']
  | (n, v) :: f :: fields => nameLiteral n v ++ ':' :: chars v ++ ',' :: fieldChars (f :: fields)
end

/-- **A value as a JSON text.** -/
def render (v : Json) : String := String.ofList (chars v)

/-- A value as a JSON text in Unicode, if it has one. -/
def render? (v : Json) : Option String := if v.isWhole then some v.render else none

end Gazetteer.Json
