import Gazetteer.Json.Basic
import Gazetteer.Text.CommaList

/-!
# Torn texts

A torn text is trimmed and cut at its commas as any other, code point by code point.  A part of it
without half a surrogate pair is a text like others.

* `codePoints`, `points?`: the code points of a text, and of a value that is one, torn or not;
* `trimPoints`: without the blanks at the ends;
* `pointParts`, `tornParts`: the parts between commas, by their code points and as values.
-/

namespace Gazetteer.Json

open Text

/-- The code points of a text. -/
abbrev codePoints (s : String) : List Nat := s.toList.map Char.toNat

/-- **The code points of a text**, torn or not. -/
def points? : Json → Option (List Nat)
  | .text s => some (codePoints s)
  | .torn points => some points
  | _ => none

/-- Whether a code point is that of a blank. -/
def isBlankPoint (point : Nat) : Bool := isBlank (Char.ofNat point)

/-- Code points without the blanks at the ends. -/
def trimPoints (points : List Nat) : List Nat := trimBy isBlankPoint points

/-- The trimmed parts between commas that are not empty. -/
def pointParts (points : List Nat) : List (List Nat) :=
  ((splitAt ','.toNat points).map trimPoints).filter (!·.isEmpty)

/-- **The parts of a torn text.** -/
def tornParts (points : List Nat) : List Json := (pointParts points).map ofPoints

end Gazetteer.Json
