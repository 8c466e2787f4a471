import Gazetteer.Json.Display
import Gazetteer.Json.Points
import Gazetteer.Number.Numeral
import Gazetteer.Search.Request
import Gazetteer.Text.Percent
import Gazetteer.Text.Split

/-!
# Names of read results

Every result that is kept for later has a name, its key.  A country is named by its number, a page
by the nine parts of the request, and the list of continents by a word; all keys begin alike.  The
parts of a request have colons between them, and in a part a colon is escaped.

* `Key.country`, `Key.search`, `Key.continents`: the keys;
* `Key.part`: a part of the key of a page;
* `Key.partOf?`: any value as such a part, or why it is none.
-/

namespace Gazetteer.Key

open Number Text Search

/-- What all keys begin with. -/
def family : String := "country:"

/-- What the keys of countries begin with. -/
def countryFamily : String := "country:id:"

/-- What the keys of pages begin with. -/
def searchFamily : String := "country:search:"

/-- The key of a country, by all digits of its number.  Where numbers of more than some digits, as a
rule 4300, are not converted, a number that has more of them has no key, and to ask for it fails
before any table is asked; such a number is far outside the range of the tables. -/
def country (id : Int) : String := countryFamily ++ intText id

/-- The key of the list of continents. -/
def continents : String := "country:continents"

/-- A character that stands for itself in a part of a key. -/
def isKept (c : Char) : Bool := Percent.isUnreserved c || c = ' ' || c = '+'

/-- **A part of the key of a page**, empty if nothing is given. -/
def part : Option String → List Char
  | some s => Percent.escape isKept s.toList
  | none => []

/-- A value as a part of a key. -/
def partOf : Json → String
  | .null => ""
  | v => String.ofList (part (some v.inline))

/-- **Why a text is no part of a key**: it is torn, so that it has no octets.  Told are the first
half of a surrogate pair in it, and the places of the row of such halves that begins there. -/
structure Fault where
  half : Nat
  first : Nat
  last : Nat
  deriving DecidableEq, Repr

/-- The wording of a fault. -/
def Fault.message (f : Fault) : String :=
  (if f.first = f.last then
      "'utf-8' codec can't encode character '" ++ String.ofList ('\\' :: 'u' :: hexPadded 4 f.half)
        ++ "' in position " ++ natText f.first
    else
      "'utf-8' codec can't encode characters in position " ++ natText f.first ++ "-"
        ++ natText f.last)
    ++ ": surrogates not allowed"

/-- Why the text with the given code points is no part of a key. -/
def fault? (points : List Nat) : Option Fault :=
  let before := points.takeWhile (!Json.isHalf ·)
  match points.drop before.length with
  | [] => none
  | half :: rest =>
    some ⟨half, before.length, before.length + (rest.takeWhile Json.isHalf).length⟩

/-- **A value as a part of a key**, or why it is none. -/
def partOf? (v : Json) : Except Fault String :=
  match v.points?.bind fault? with
  | some fault => .error fault
  | none => .ok (partOf v)

/-- The parts of a request. -/
def parts (r : Request) : List (Option String) :=
  [r.name, r.continent, r.iso2, r.iso3, r.countryCode, some (natText r.pageNumber),
    some (natText r.pageSize), some r.sortBy.word, some r.direction.word]

/-- **The key of a page.** -/
def search (r : Request) : String :=
  searchFamily ++ String.ofList (joinWith ':' ((parts r).map part))

end Gazetteer.Key
