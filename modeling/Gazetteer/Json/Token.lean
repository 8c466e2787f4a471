import Gazetteer.Json.Basic
import Gazetteer.Number.Numeral
import Gazetteer.Text.Hexadecimal

/-!
# The tokens of a JSON text

A JSON text is cut into punctuation, string literals and other scalars, each with the offset at
which it begins.  Cutting never looks at what the tokens are used for: a character that begins no
token is a `stray` one, and a malformed literal is a token of its own, so that the reader can tell
whether the fault or the place is to be reported first.

* `stringLiteral`: the rest of a string literal, or what is wrong with it;
* `numberLiteral?`: the longest numeral at the front of a text;
* `tokens`: all tokens with their offsets.
-/

namespace Gazetteer.Json

open Number Text

/-- What can be wrong with a JSON text. -/
inductive Problem where
  | expectingValue
  | expectingName
  | expectingColon
  | expectingComma
  | extraData
  | unterminatedString
  | controlCharacter
  | invalidEscape
  | invalidUnicodeEscape
  /-- An array within more values than are followed. -/
  | deepArray
  /-- An object within more values than are followed. -/
  | deepObject
  /-- A whole number of more digits than are converted. -/
  | longInteger (digits greatest : Nat)
  deriving DecidableEq, Repr

/-- The wording of a problem. -/
def Problem.message : Problem → String
  | .expectingValue => "Expecting value"
  | .expectingName => "Expecting property name enclosed in double quotes"
  | .expectingColon => "Expecting ':' delimiter"
  | .expectingComma => "Expecting ',' delimiter"
  | .extraData => "Extra data"
  | .unterminatedString => "Unterminated string starting at"
  | .controlCharacter => "Invalid control character at"
  | .invalidEscape => "Invalid \\escape"
  | .invalidUnicodeEscape => "Invalid \\uXXXX escape"
  | .deepArray =>
    "maximum recursion depth exceeded while decoding a JSON array from a unicode string"
  | .deepObject =>
    "maximum recursion depth exceeded while decoding a JSON object from a unicode string"
  | .longInteger digits greatest =>
    "Exceeds the limit (" ++ natText greatest ++ " digits) for integer string conversion: value "
      ++ "has " ++ natText digits
      ++ " digits; use sys.set_int_max_str_digits() to increase the limit"

/-- A problem and the offset of the character at which it shows. -/
structure Fault where
  problem : Problem
  offset : Nat
  deriving DecidableEq, Repr

/-- A token. -/
inductive Token where
  | openBrace | closeBrace | openBracket | closeBracket | colon | comma
  /-- A literal other than a string. -/
  | scalar (value : Json)
  /-- A string literal, by the code points of its text. -/
  | string (points : List Nat)
  /-- A string literal with a fault, whose offset counts from the opening quote. -/
  | badString (fault : Fault)
  /-- A character that begins no token. -/
  | stray

/-- The characters between tokens. -/
def isGap (c : Char) : Bool := c = ' ' || c = '\t' || c = '\n' || c = '\r'

/-- The character named by a one-letter escape. -/
def escaped? : Char → Option Char
  | '"' => some '"'
  | '\\' => some '\\'
  | '/' => some '/'
  | 'b' => some '\x08'
  | 'f' => some '\x0c'
  | 'n' => some '\n'
  | 'r' => some '\r'
  | 't' => some '\t'
  | _ => none

/-- Whether two code units are the halves of a surrogate pair. -/
def isPair (high low : Nat) : Bool :=
  0xD800 ≤ high && high ≤ 0xDBFF && 0xDC00 ≤ low && low ≤ 0xDFFF

/-- The code point that a surrogate pair denotes. -/
def pairPoint (high low : Nat) : Nat := 0x10000 + (high - 0xD800) * 0x400 + (low - 0xDC00)

/-- The code unit written in four hexadecimal digits at the front of a text that goes on after
them. -/
def codeUnit? : List Char → Option Nat
  | a :: b :: c :: d :: _ :: _ => hexValues? [a, b, c, d]
  | _ => none

/-- The code point that the four digits after `\\u` denote, alone or with a second escape right
after them, and the number of characters that belong to it. -/
def unicodeEscape? (cs : List Char) : Option (Nat × Nat) :=
  (codeUnit? cs).map fun unit =>
    match cs.drop 4 with
    | '\\' :: 'u' :: rest =>
      match codeUnit? rest with
      | some unit' => if isPair unit unit' then (pairPoint unit unit', 10) else (unit, 4)
      | none => (unit, 4)
    | _ => (unit, 4)

/-- The code point that an escape denotes, and the number of characters after the backslash that
belong to it. -/
def escape : List Char → Except Problem (Nat × Nat)
  | [] => .error .unterminatedString
  | 'u' :: rest =>
    match unicodeEscape? rest with
    | some (point, length) => .ok (point, length + 1)
    | none => .error .invalidUnicodeEscape
  | e :: _ =>
    match escaped? e with
    | some c => .ok (c.toNat, 1)
    | none => .error .invalidEscape

/-- The fault of an escape whose backslash is `count` characters after the opening quote. -/
def escapeFault (count : Nat) : Problem → Fault
  | .unterminatedString => ⟨.unterminatedString, 0⟩
  | .invalidUnicodeEscape => ⟨.invalidUnicodeEscape, count + 1⟩
  | problem => ⟨problem, count⟩

/-- The rest of a string literal: `count` characters have been read, which stand for the code points
`read` (in reverse), and the next `skip` ones belong to an escape.  The result is the text by its
code points and the length of the whole literal. -/
def stringLiteral (skip : Nat) (read : List Nat) (count : Nat) :
    List Char → Except Fault (List Nat × Nat)
  | [] => .error ⟨.unterminatedString, 0⟩
  | c :: cs =>
    if skip ≠ 0 then stringLiteral (skip - 1) read (count + 1) cs
    else if c = '"' then .ok (read.reverse, count + 1)
    else if c = '\\' then
      match escape cs with
      | .ok (point, length) => stringLiteral length (point :: read) (count + 1) cs
      | .error problem => .error (escapeFault count problem)
    else if c.toNat < 0x20 then .error ⟨.controlCharacter, count⟩
    else stringLiteral 0 (c.toNat :: read) (count + 1) cs

/-- The digits of the whole part of a numeral: no leading zero unless it is the only digit. -/
def wholeDigits : List Char → List Char
  | '0' :: _ => ['0']
  | cs => cs.takeWhile Char.isDigit

/-- The digits after a point that at least one digit follows. -/
def fractionDigits : List Char → List Char
  | '.' :: cs => cs.takeWhile Char.isDigit
  | _ => []

/-- The sign and the digits of an exponent, if there is a digit. -/
def exponentPart : List Char → Option (List Char × List Char)
  | c :: cs =>
    if c = 'e' ∨ c = 'E' then
      let sign := match cs with
        | '+' :: _ => ['+']
        | '-' :: _ => ['-']
        | _ => []
      match (cs.drop sign.length).takeWhile Char.isDigit with
      | [] => none
      | digits => some (sign, digits)
    else none
  | [] => none

/-- **The longest numeral at the front of a text**, and its length. -/
def numberLiteral? (cs : List Char) : Option (Token × Nat) :=
  let negative := cs.head? = some '-'
  let sign := if negative then 1 else 0
  let whole := wholeDigits (cs.drop sign)
  if whole.isEmpty then none
  else
    let afterWhole := cs.drop (sign + whole.length)
    let fraction := fractionDigits afterWhole
    let point := if fraction.isEmpty then 0 else fraction.length + 1
    match exponentPart (afterWhole.drop point) with
    | some (expSign, digits) =>
      let exponent : Int := digitsValue digits
      let exponent := if expSign = ['-'] then -exponent else exponent
      some (.scalar (.real (.ofDecimal negative (digitsValue (whole ++ fraction))
        (exponent - fraction.length))), sign + whole.length + point + 1 + expSign.length
          + digits.length)
    | none =>
      let length := sign + whole.length + point
      if !fraction.isEmpty then
        some (.scalar (.real (.ofDecimal negative (digitsValue (whole ++ fraction))
          (-fraction.length))), length)
      else
        let n : Int := digitsValue whole
        some (.scalar (.int (if negative then -n else n)), length)

/-- The literals that are words. -/
def words : List (String × Json) :=
  [("null", .null), ("true", .bool true), ("false", .bool false), ("NaN", .real .notANumber),
    ("Infinity", .real (.infinite false)), ("-Infinity", .real (.infinite true))]

/-- The word at the front of a text, and its length. -/
def wordLiteral? (cs : List Char) : Option (Token × Nat) :=
  (words.find? fun w => w.1.toList.isPrefixOf cs).map fun w => (.scalar w.2, w.1.length)

/-- The token that begins with `c`, and its length. -/
def tokenAt (c : Char) (cs : List Char) : Token × Nat :=
  match c with
  | '\x7b' => (.openBrace, 1)
  | '\x7d' => (.closeBrace, 1)
  | '[' => (.openBracket, 1)
  | ']' => (.closeBracket, 1)
  | ':' => (.colon, 1)
  | ',' => (.comma, 1)
  | '"' => match stringLiteral 0 [] 1 cs with
    | .ok (points, length) => (.string points, length)
    | .error fault => (.badString fault, cs.length + 1)
  | c => match wordLiteral? (c :: cs) with
    | some found => found
    | none => (numberLiteral? (c :: cs)).getD (.stray, 1)

/-- The tokens of the text that follows after `skip` characters, the first of which is at
`offset`. -/
def tokensFrom (skip offset : Nat) : List Char → List (Nat × Token)
  | [] => []
  | c :: cs =>
    if skip ≠ 0 then tokensFrom (skip - 1) (offset + 1) cs
    else if isGap c then tokensFrom 0 (offset + 1) cs
    else match tokenAt c cs with
      | (token, length) => (offset, token) :: tokensFrom (length - 1) (offset + 1) cs

/-- **The tokens of a text, with their offsets.** -/
def tokens (cs : List Char) : List (Nat × Token) := tokensFrom 0 0 cs

end Gazetteer.Json
