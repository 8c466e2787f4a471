import Gazetteer.Registry.Operation

/-!
# Answers as JSON values

* `Answer.json?`: the answer of an operation, if the numbers of a page are defined;
* `Store.json`: the contents of both tables.
-/

namespace Gazetteer

/-- A row of the table of countries. -/
def CountryRow.json (r : CountryRow) : Json :=
  .array [.int r.id, .text r.name, .text r.continent, .text r.iso2, .text r.iso3,
    .text r.created.moment.text, .text r.modified.moment.text]

/-- A row of the table of dialling codes. -/
def CodeRow.json (r : CodeRow) : Json :=
  .array [.int r.id, .int r.countryId, .text r.code, .bool r.isPrimary,
    .text r.created.moment.text, .text r.modified.moment.text]

/-- **The contents of both tables.** -/
def Store.json (s : Store) : Json :=
  .object [("countries", .array (s.countries.map CountryRow.json)),
    ("codes", .array (s.codes.map CodeRow.json))]

namespace Answer

/-- A row of the table of countries with its dialling codes. -/
def rowJson (row : CountryRow) (detail : Country.Detail) : Json :=
  .object (detail.jsonFields .text
    ++ [("repr", .text row.label), ("primary_code", .ofText? detail.primaryCode)])

/-- **An answer as a value.** -/
def json? : Answer → Option Json
  | done | detail none | page none | names none | row none => some .null
  | truth b => some (.bool b)
  | number n => some (.int n)
  | detail (some d) => some d.json
  | page (some p) => p.json?
  | names (some ns) => some (.array (ns.map .text))
  | lifetimes l => some (.array [.int l.country, .int l.search])
  | row (some (r, d)) => some (rowJson r d)
  | rowNames ns total =>
    some (.object [("names", .array (ns.map .text)), ("total", .int total)])
  | code r => some (.object [("id", .int r.id), ("repr", .text r.label)])
  | store s => some s.json

end Answer

end Gazetteer
