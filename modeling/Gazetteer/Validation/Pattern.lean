import Gazetteer.Number.Numeral
import Gazetteer.Text.Decimal

/-!
# Patterns of texts

The codes of a country are held to one of three patterns, each with the written form under which
messages name it.

* `Pattern.accepts`: the texts of a pattern;
* `Pattern.text`: its written form.
-/

namespace Gazetteer.Validation

open Number Text

/-- A form that a text may be held to. -/
inductive Pattern where
  /-- So many letters of ASCII. -/
  | letters (count : Nat)
  /-- So many capital letters of ASCII. -/
  | capitals (count : Nat)
  /-- A row of decimal digits of any script, hyphens and plus signs, not empty. -/
  | dialling
  deriving DecidableEq, Repr

/-- A character of a dialling code. -/
def isDialling (c : Char) : Bool := isDecimal c || c = '-' || c = '+'

/-- **The texts of a pattern.** -/
def Pattern.accepts (p : Pattern) (cs : List Char) : Bool :=
  match p with
  | .letters count => cs.length = count && cs.all Char.isAlpha
  | .capitals count => cs.length = count && cs.all Char.isUpper
  | .dialling => !cs.isEmpty && cs.all isDialling

/-- A pattern in writing. -/
def Pattern.text : Pattern → String
  | .letters count => "^[A-Za-z]\x7b" ++ natText count ++ "\x7d$"
  | .capitals count => "^[A-Z]\x7b" ++ natText count ++ "\x7d$"
  | .dialling => "^[\\d\\-\\+]+$"

end Gazetteer.Validation
