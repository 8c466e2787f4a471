import Gazetteer.Search.Order
import Gazetteer.Validation.Rule

/-!
# Search requests

A request names filters, an order and a page.  A filter of blanks only counts as not given; an
unknown field or direction of the order is no error, the name and the ascending order stand in.

* `Request.read`: the request that a JSON value describes;
* `Request.json`: a request as a JSON value.
-/

namespace Gazetteer.Search

open Text Validation

/-- **Filters, order and page of a search.** -/
structure Request where
  name : Option String
  continent : Option String
  iso2 : Option String
  iso3 : Option String
  countryCode : Option String
  pageNumber : Nat
  pageSize : Nat
  sortBy : SortField
  direction : SortDirection
  deriving DecidableEq, Repr

namespace Request

def nameRule : TextRule := { greatest := some 100 }

def continentRule : TextRule := { greatest := some 50 }

def iso2Rule : TextRule := { pattern := some (.capitals 2) }

def iso3Rule : TextRule := { pattern := some (.capitals 3) }

def countryCodeRule : TextRule := { greatest := some 20, pattern := some .dialling }

/-- The greatest number that a page may have. -/
def greatestPage : Nat := 0x7FFFFFFF

/-- The greatest number of items of a page. -/
def greatestSize : Nat := 1000

/-- A text of blanks only counts as nothing. -/
def blankAsNull : Json → Json
  | .text s => if isAllBlank s then .null else .text s
  | v => v

/-- A filter that obeys a rule, if one is given. -/
def filter (rule : TextRule) (v : Json) : Checked (Option String) :=
  optional rule.check (blankAsNull v)

/-- A positive number up to `greatest`. -/
def positive (greatest : Nat) (v : Json) : Checked Nat := Int.toNat <$> between 1 greatest v

/-- **The field that a value names**, for want of another the name.  Whether a text names one is
told by its small letters; which one is looked up afterwards. -/
def sortField (v : Json) : Checked SortField :=
  match v with
  | .text s =>
    if SortField.all.any (·.word = lower (trim s)) then
      match SortField.ofWord? (trim s) with
      | some f => .ok f
      | none => .refuse (.refused ((Json.text (trim s)).display ++
          " is not a valid CountrySortField")) v
    else .ok .name
  | _ => .ok .name

/-- The direction that a value names, for want of another the ascending one. -/
def sortDirection : Json → SortDirection
  | .text s => if lower (trim s) = SortDirection.descending.word then .descending else .ascending
  | _ => .ascending

/-- The request that the fields of an object describe. -/
def ofFields (fields : List (String × Json)) : Checked Request :=
  Request.mk
    <$> withDefault ["name"] none (filter nameRule) fields
    <*> withDefault ["continent"] none (filter continentRule) fields
    <*> withDefault ["iso2"] none (filter iso2Rule) fields
    <*> withDefault ["iso3"] none (filter iso3Rule) fields
    <*> withDefault ["countryCode", "country_code"] none (filter countryCodeRule) fields
    <*> withDefault ["pageNumber", "page_number"] 1 (positive greatestPage) fields
    <*> withDefault ["pageSize", "page_size"] 50 (positive greatestSize) fields
    <*> withDefault ["sortBy", "sort_by"] .name sortField fields
    <*> withDefault ["sortDirection", "sort_direction"] .ascending (.ok <| sortDirection ·) fields

/-- The kind of record under which a request is refused. -/
def kind : String := "CountrySearchRequest"

/-- **The request that a value describes.** -/
def read (v : Json) : Checked Request := record (.recordExpected kind) ofFields v

/-- Whether the order is descending. -/
def isDescending (r : Request) : Bool := r.direction = .descending

/-- **A request as a value.** -/
def json (r : Request) : Json :=
  .object [("name", .ofText? r.name), ("continent", .ofText? r.continent),
    ("iso2", .ofText? r.iso2), ("iso3", .ofText? r.iso3), ("countryCode", .ofText? r.countryCode),
    ("pageNumber", .int r.pageNumber), ("pageSize", .int r.pageSize),
    ("sortBy", .text r.sortBy.word), ("sortDirection", .text r.direction.word)]

end Request

end Gazetteer.Search
