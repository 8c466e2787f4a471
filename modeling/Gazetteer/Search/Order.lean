import Gazetteer.Text.Blank
import Gazetteer.Text.Casing

/-!
# The order of a search result

A result is sorted by one of seven fields, ascending or descending.  Each choice has a word, which
is read without regard to the case of its letters, and a label.

* `choiceOf?`: the choice that a word stands for, among those that there are;
* `SortField.ofWord?`, `SortDirection.ofWord?`: the field and the direction.
-/

namespace Gazetteer.Search

open Text

/-- **The choice that a word stands for**: the one that has this word, and for want of it the first
whose word is the same in small letters. -/
def choiceOf? (word : α → String) (all : List α) (s : String) : Option α :=
  (all.find? (word · = s)).or (all.find? fun x => lower (word x) = lower s)

/-- **A field that a result may be sorted by.** -/
inductive SortField where
  | name
  | continent
  | countryCode
  | iso2
  | iso3
  | created
  | modified
  deriving DecidableEq, Repr

namespace SortField

/-- All fields, in the order in which they are tried. -/
def all : List SortField := [name, continent, countryCode, iso2, iso3, created, modified]

/-- The word for a field. -/
def word : SortField → String
  | name => "name"
  | continent => "continent"
  | countryCode => "countrycode"
  | iso2 => "iso2"
  | iso3 => "iso3"
  | created => "createddate"
  | modified => "modifieddate"

/-- The label of a field. -/
def label : SortField → String
  | name => "NAME"
  | continent => "CONTINENT"
  | countryCode => "COUNTRY_CODE"
  | iso2 => "ISO2"
  | iso3 => "ISO3"
  | created => "CREATED_DATE"
  | modified => "MODIFIED_DATE"

/-- **The field that a word stands for.** -/
def ofWord? (s : String) : Option SortField := choiceOf? word all s

theorem mem_all (f : SortField) : f ∈ all := by cases f <;> decide

end SortField

/-- **The direction of an order.** -/
inductive SortDirection where
  | ascending
  | descending
  deriving DecidableEq, Repr

namespace SortDirection

def all : List SortDirection := [ascending, descending]

/-- The word for a direction. -/
def word : SortDirection → String
  | ascending => "asc"
  | descending => "desc"

/-- The label of a direction. -/
def label : SortDirection → String
  | ascending => "ASC"
  | descending => "DESC"

/-- **The direction that a word stands for.** -/
def ofWord? (s : String) : Option SortDirection := choiceOf? word all s

end SortDirection

end Gazetteer.Search
