import Gazetteer.Store.Basic

/-!
# Writing to the tables

A write gives either a new store or the reason why it is refused; nothing of a refused write is ever
to be seen.  Of several values that are taken already, the longer country code is reported before
the shorter one, and that before the name.

* `create`, `replace`, `remove`: a country with its dialling codes;
* `addCode`: one more dialling code for a country.
-/

namespace Gazetteer.Store

/-- The values of a country that is to be written, each of which may be absent. -/
structure Columns where
  name : Option String
  continent : Option String
  iso2 : Option String
  iso3 : Option String
  codes : List (Option String)
  deriving DecidableEq, Repr

/-- The values of a country of which none is absent. -/
def columns (f : Country.Fields) : Columns :=
  ⟨some f.name, some f.continent, some f.iso2, some f.iso3, f.codes.map some⟩

/-- The value of a column. -/
def present (column : Column) : Option String → Except Fault String
  | some s => .ok s
  | none => .error (.absent column)

/-- Whether a row other than the one with the given number has a value. -/
def isTaken (s : Store) (id : Int) (value : CountryRow → String) (x : String) : Bool :=
  s.countries.any fun r => r.id ≠ id && value r = x

/-- The refusal of a value that another row has. -/
def free (s : Store) (id : Int) (column : Column) (value : CountryRow → String) (x : String) :
    Except Fault Unit :=
  if s.isTaken id value x then .error (.taken column) else .ok ()

/-- The row of a country, if it meets all constraints. -/
def countryRow (s : Store) (id : Int) (created modified : Instant) (c : Columns) :
    Except Fault CountryRow := do
  let name ← present .name c.name
  let continent ← present .continent c.continent
  let iso2 ← present .iso2 c.iso2
  let iso3 ← present .iso3 c.iso3
  s.free id .iso3 (·.iso3) iso3
  s.free id .iso2 (·.iso2) iso2
  s.free id .name (·.name) name
  .ok ⟨id, name, continent, iso2, iso3, created, modified⟩

/-- The rows of dialling codes from the number `id` on; only the first may be primary. -/
def codeRows (id countryId : Int) (now : Instant) (isPrimary : Bool) :
    List (Option String) → Except Fault (List CodeRow)
  | [] => .ok []
  | code :: codes => do
    let code ← present .code code
    let rows ← codeRows (id + 1) countryId now false codes
    .ok (⟨id, countryId, code, isPrimary, now, now⟩ :: rows)

/-- **A new country** with its dialling codes, of which the first is the primary one. -/
def create (s : Store) (now : Instant) (c : Columns) : Except Fault (CountryRow × Store) := do
  let row ← s.countryRow (nextId (s.countries.map (·.id))) now now c
  let codes ← codeRows (nextId (s.codes.map (·.id))) row.id now true c.codes
  .ok (row, ⟨s.countries ++ [row], s.codes ++ codes⟩)

/-- **New values for a country**, whose dialling codes are all replaced; nothing if there is no such
country. -/
def replace (s : Store) (now : Instant) (id : Int) (c : Columns) :
    Except Fault (Option (CountryRow × Store)) := do
  checkId id
  match s.country? id with
  | none => .ok none
  | some old =>
    let row ← s.countryRow id old.created now c
    let others := s.codes.filter (·.countryId ≠ id)
    let codes ← codeRows (nextId (others.map (·.id))) id now true c.codes
    .ok (some (row, ⟨s.countries.map fun r => if r.id = id then row else r, others ++ codes⟩))

/-- **The tables without a country** and its dialling codes; nothing if there is no such country. -/
def remove (s : Store) (id : Int) : Except Fault (Option Store) := do
  checkId id
  match s.country? id with
  | none => .ok none
  | some _ => .ok (some ⟨s.countries.filter (·.id ≠ id), s.codes.filter (·.countryId ≠ id)⟩)

/-- **One more dialling code for a country.** -/
def addCode (s : Store) (now : Instant) (countryId : Option Int) (code : Option String)
    (isPrimary : Bool) : Except Fault (CodeRow × Store) := do
  match countryId with
  | none => .error (.absent .country)
  | some countryId =>
    checkId countryId
    let code ← present .code code
    if (s.country? countryId).isNone then .error .noCountry
    let row : CodeRow := ⟨nextId (s.codes.map (·.id)), countryId, code, isPrimary, now, now⟩
    .ok (row, { s with codes := s.codes ++ [row] })

end Gazetteer.Store
