import Gazetteer.Text.Hexadecimal
import Gazetteer.Text.Spans
import Gazetteer.Text.Split

/-!
# Tables of code points in writing

A table of code points is written in rows of entries with spaces between them, and all numbers in it
are hexadecimal.  An entry is a code point or a span `first-last` of them.  In a table of mappings a
colon and the numbers of the image follow; over a span the first of these numbers goes up together
with the code point, and in a span `first/last` only every second code point is meant.

* `CodeTable.spans`, `CodeTable.mappings`: what a table says;
* `Mapping.image?`: the image of a code point.
-/

namespace Gazetteer.Text

/-- The images of some code points: every `step`-th one from `first` to `last`. -/
structure Mapping where
  first : Nat
  last : Nat
  step : Nat
  /-- The image of `first`. -/
  image : List Nat
  deriving DecidableEq, Repr

namespace Mapping

/-- Whether a mapping covers a code point. -/
def covers (m : Mapping) (point : Nat) : Bool :=
  m.first ≤ point && point ≤ m.last && (point - m.first) % m.step = 0

/-- **The image of a code point**, if it is covered. -/
def image? (m : Mapping) (point : Nat) : Option (List Nat) :=
  if m.covers point then
    match m.image with
    | head :: tail => some ((head + (point - m.first)) :: tail)
    | [] => some []
  else none

/-- The code point whose image is a pair, if one is covered. -/
def source? (m : Mapping) (a b : Nat) : Option Nat :=
  match m.image with
  | [head, second] =>
    let point := m.first + (a - head)
    if second = b && head ≤ a && m.covers point then some point else none
  | _ => none

end Mapping

namespace CodeTable

/-- The entries of a table. -/
def entries (rows : List String) : List (List Char) :=
  rows.flatMap fun row => splitAt ' ' row.toList

/-- A number in writing. -/
def number (cs : List Char) : Nat := (hexValues? cs).getD 0

/-- A span in writing, and the distance of the code points that are meant. -/
def span (cs : List Char) : Nat × Nat × Nat :=
  match cutAt '-' cs, cutAt '/' cs with
  | (first, some last), _ => (number first, number last, 1)
  | _, (first, some last) => (number first, number last, 2)
  | _, _ => (number cs, number cs, 1)

/-- **The spans of a table.** -/
def spans (rows : List String) : List (Nat × Nat) :=
  (entries rows).map fun entry => ((span entry).1, (span entry).2.1)

/-- A mapping in writing. -/
def mapping (cs : List Char) : Mapping :=
  let (source, image) := cutAt ':' cs
  let (first, last, step) := span source
  { first, last, step, image := ((image.map (splitAt ',')).getD []).map number }

/-- **The mappings of a table.** -/
def mappings (rows : List String) : List Mapping := (entries rows).map mapping

end CodeTable

end Gazetteer.Text
