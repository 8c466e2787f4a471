import Gazetteer.Country.Detail
import Gazetteer.Country.Draft
import Gazetteer.Number.Numeral
import Gazetteer.Search.Order

/-!
# The two tables

A `Store` holds the countries and, in a table of their own, their dialling codes.  Both tables are
in the order of the numbers of their rows, and a new row gets the number after the greatest one.

* `Store.country?`, `Store.codesOf`: the rows of a country;
* `Store.detail`: a country as answers show it;
* `Fault.message`: the wording of a refusal.
-/

namespace Gazetteer

/-- **A row of the table of countries.** -/
structure CountryRow where
  id : Int
  name : String
  continent : String
  iso2 : String
  iso3 : String
  created : Instant
  modified : Instant
  deriving DecidableEq, Repr

/-- **A row of the table of dialling codes.** -/
structure CodeRow where
  id : Int
  countryId : Int
  code : String
  isPrimary : Bool
  created : Instant
  modified : Instant
  deriving DecidableEq, Repr

/-- **The two tables.** -/
structure Store where
  countries : List CountryRow
  codes : List CodeRow
  deriving DecidableEq, Repr

namespace Store

/-- The tables without any row. -/
def empty : Store := ⟨[], []⟩

/-! ## Refusals -/

/-- A column with a constraint. -/
inductive Column where
  | name
  | continent
  | iso2
  | iso3
  | country
  | code
  deriving DecidableEq, Repr

/-- A column with its table. -/
def Column.text : Column → String
  | name => "countries.name"
  | continent => "countries.continent"
  | iso2 => "countries.iso2"
  | iso3 => "countries.iso3"
  | country => "country_codes.country_id"
  | code => "country_codes.code"

/-- **Why the tables refuse an operation.** -/
inductive Fault where
  /-- A column without a value. -/
  | absent (column : Column)
  /-- A value that another row has already. -/
  | taken (column : Column)
  /-- A dialling code of no country. -/
  | noCountry
  /-- A number that no row can have. -/
  | outOfRange
  deriving DecidableEq, Repr

/-- The wording of a refusal. -/
def Fault.message : Fault → String
  | .absent column => "NOT NULL constraint failed: " ++ column.text
  | .taken column => "UNIQUE constraint failed: " ++ column.text
  | .noCountry => "FOREIGN KEY constraint failed"
  | .outOfRange => "Python int too large to convert to SQLite INTEGER"

/-! ## Numbers of rows -/

/-- Whether a number fits into the column of a row's number, which has 64 bits. -/
def fits (id : Int) : Bool := -0x8000000000000000 ≤ id && id < 0x8000000000000000

/-- The refusal of a number that does not fit. -/
def checkId (id : Int) : Except Fault Unit := if fits id then .ok () else .error .outOfRange

/-- The number of the next row. -/
def nextId (ids : List Int) : Int := ids.foldl max 0 + 1

/-! ## Rows of a country -/

/-- The country with a number. -/
def country? (s : Store) (id : Int) : Option CountryRow := s.countries.find? (·.id = id)

/-- The dialling codes of a country, in the order of their numbers. -/
def codesOf (s : Store) (id : Int) : List CodeRow := s.codes.filter (·.countryId = id)

/-- A dialling code as answers show it. -/
def codeDetail (r : CodeRow) : Country.CodeDetail := ⟨r.id, r.code, r.isPrimary⟩

/-- The first of a country's codes that is marked as primary. -/
def primaryCode? (codes : List CodeRow) : Option String :=
  (codes.find? (·.isPrimary)).map (·.code)

/-- **A country as answers show it.** -/
def detail (s : Store) (r : CountryRow) : Country.Detail where
  id := r.id
  name := r.name
  continent := r.continent
  primaryCode := primaryCode? (s.codesOf r.id)
  codes := (s.codesOf r.id).map codeDetail
  iso2 := r.iso2
  iso3 := r.iso3
  created := r.created.moment
  modified := r.modified.moment

/-- The country with a number, as answers show it. -/
def detail? (s : Store) (id : Int) : Option Country.Detail := (s.country? id).map s.detail

end Store

/-- A row of the table of countries in a few words. -/
def CountryRow.label (r : CountryRow) : String :=
  "<Country id=" ++ Number.intText r.id ++ " - '" ++ r.name ++ "' (" ++ r.iso3 ++ ")>"

/-- A row of the table of dialling codes in a few words. -/
def CodeRow.label (r : CodeRow) : String :=
  "<CountryCode country_id=" ++ Number.intText r.countryId ++ " code=" ++ r.code
    ++ (if r.isPrimary then " (primary)" else "") ++ ">"

end Gazetteer
