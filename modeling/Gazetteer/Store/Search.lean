import Gazetteer.Country.Page
import Gazetteer.Search.Request
import Gazetteer.Store.Basic
import Gazetteer.Text.Wildcard

/-!
# Searching the tables

A search keeps the countries that every given filter accepts, puts them in order and cuts out one
page.  Countries that are equal in the field they are sorted by are in the order of their numbers,
and a descending order is the reverse of the ascending one in all respects.

* `accepts`, `found`: the countries that a request is about;
* `precedes`, `ordered`: their order;
* `page`: the page that is asked for;
* `continents`: all continents, each once.
-/

namespace Gazetteer.Store

open Search Text

/-! ## Filters -/

/-- Whether a filter, if it is given, accepts a value. -/
def given (filter : Option String) (accepts : String → Bool) : Bool := filter.all accepts

/-- **Whether all filters of a request accept a country.** -/
def accepts (s : Store) (r : Request) (c : CountryRow) : Bool :=
  given r.name (fun part => Wildcard.finds part.toList c.name.toList)
    && given r.continent (fun part => Wildcard.finds part.toList c.continent.toList)
    && given r.iso2 (· = c.iso2)
    && given r.iso3 (· = c.iso3)
    && given r.countryCode (fun code => s.codes.any fun k => k.countryId = c.id && k.code = code)

/-- The countries that a request is about. -/
def found (s : Store) (r : Request) : List CountryRow := s.countries.filter (s.accepts r)

/-! ## Order -/

/-- What a country is sorted by. -/
inductive SortKey where
  | text (s : String)
  | absent
  | time (t : Instant)
  deriving DecidableEq, Repr

/-- Whether a key comes before another one; an absent text comes before all others. -/
def SortKey.lt : SortKey → SortKey → Bool
  | .text a, .text b => a < b
  | .absent, .text _ => true
  | .time a, .time b => a < b
  | .text _, .time _ | .absent, .time _ => true
  | _, _ => false

/-- The code of the primary row with the least number, over the whole table. -/
def primaryCodeOf? (s : Store) (id : Int) : Option String := do
  let rows := s.codes.filter fun k => k.countryId = id && k.isPrimary
  let least ← (rows.map (·.id)).min?
  (rows.find? (·.id = least)).map (·.code)

/-- The key of a country. -/
def sortKey (s : Store) (field : SortField) (c : CountryRow) : SortKey :=
  match field with
  | .name => .text c.name
  | .continent => .text c.continent
  | .countryCode => ((s.primaryCodeOf? c.id).map SortKey.text).getD .absent
  | .iso2 => .text c.iso2
  | .iso3 => .text c.iso3
  | .created => .time c.created
  | .modified => .time c.modified

/-- **Whether a country comes before another one**, or is the same, in ascending order. -/
def precedes (s : Store) (field : SortField) (a b : CountryRow) : Bool :=
  (s.sortKey field a).lt (s.sortKey field b)
    || (s.sortKey field a = s.sortKey field b && a.id ≤ b.id)

/-- Countries in order. -/
def ordered (s : Store) (field : SortField) (direction : SortDirection) (cs : List CountryRow) :
    List CountryRow :=
  match direction with
  | .ascending => cs.mergeSort fun a b => s.precedes field a b
  | .descending => cs.mergeSort fun a b => s.precedes field b a

/-! ## Pages -/

/-- The part of a list that makes up a page; pages are counted from one. -/
def pageOf (number size : Nat) (xs : List α) : List α := (xs.drop ((number - 1) * size)).take size

/-- The countries on the page that is asked for. -/
def rows (s : Store) (r : Request) : List CountryRow :=
  pageOf r.pageNumber r.pageSize (s.ordered r.sortBy r.direction (s.found r))

/-- **The page that is asked for.** -/
def page (s : Store) (r : Request) : Country.Page where
  items := (s.rows r).map s.detail
  totalCount := (s.found r).length
  pageNumber := r.pageNumber
  pageSize := r.pageSize

/-- **All continents**, each once and in ascending order. -/
def continents (s : Store) : List String :=
  (s.countries.map (·.continent)).eraseDups.mergeSort fun a b => a ≤ b

end Gazetteer.Store
