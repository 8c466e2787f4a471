import Gazetteer.Text.Blank
import Gazetteer.Text.Split

/-!
# Lists written with commas

Dialling codes and origins may be given as one text with commas between them, such as
`"1-809, 1-829"`.  Blanks around a part do not belong to it, and empty parts are dropped.

* `commaParts`: the parts of a text;
* `commaParts_append`: a comma between two texts separates their parts.
-/

namespace Gazetteer.Text

/-- The trimmed parts that are not empty. -/
def trimmedParts (parts : List (List Char)) : List (List Char) :=
  (parts.map (trimBy isBlank)).filter (!·.isEmpty)

/-- The parts of a row of characters. -/
def partsOf (cs : List Char) : List (List Char) := trimmedParts (splitAt ',' cs)

/-- **The parts of a text.** -/
def commaParts (s : String) : List String := (partsOf s.toList).map String.ofList

theorem trimmedParts_append (xs ys : List (List Char)) :
    trimmedParts (xs ++ ys) = trimmedParts xs ++ trimmedParts ys := by
  simp [trimmedParts]

theorem partsOf_append (xs ys : List Char) :
    partsOf (xs ++ ',' :: ys) = partsOf xs ++ partsOf ys := by
  simp [partsOf, splitAt_append, trimmedParts_append]

/-- **A comma between two texts separates their parts.** -/
theorem commaParts_append (a b : String) :
    commaParts (a ++ "," ++ b) = commaParts a ++ commaParts b := by
  simp [commaParts, partsOf_append]

end Gazetteer.Text
