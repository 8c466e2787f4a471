import Gazetteer.Json.Points
import Gazetteer.Text.Casing
import Gazetteer.Text.CommaList
import Gazetteer.Validation.Rule

/-!
# Drafts of countries

A `Draft` is what a client sends in order to create or replace a country.  Names are trimmed before
their lengths are checked; dialling codes come as one text or as a list, and each of them is trimmed
too.

* `Draft.read`: the draft that a JSON value describes;
* `Draft.fields`: the values that are stored, with blanks removed and the codes in capitals.
-/

namespace Gazetteer.Country

open Text Validation

/-- What a draft is for. -/
inductive Purpose where
  | creation
  | replacement
  deriving DecidableEq, Repr

/-- The kind of record under which a draft is refused. -/
def Purpose.kind : Purpose → String
  | .creation => "CountryCreateIn"
  | .replacement => "CountryUpdateIn"

/-- **A country as a client describes it.** -/
structure Draft where
  name : String
  continent : String
  codes : List String
  iso2 : String
  iso3 : String
  deriving DecidableEq, Repr

/-- **The values of a country that are stored.**  The first of the dialling codes is the primary
one. -/
structure Fields where
  name : String
  continent : String
  iso2 : String
  iso3 : String
  codes : List String
  deriving DecidableEq, Repr

namespace Draft

/-! ## Reading -/

/-- A text without blanks at its ends; other values as they are. -/
def trimmed : Json → Json
  | .text s => .text (trim s)
  | .torn points => .ofPoints (Json.trimPoints points)
  | v => v

/-- The list of codes that a text stands for, and a list with its texts trimmed. -/
def codeList : Json → Json
  | .text s => .array ((commaParts s).map .text)
  | .torn points => .array (Json.tornParts points)
  | .array vs => .array (vs.map trimmed)
  | v => v

def nameRule : TextRule := { least := 1, greatest := some 100 }

def continentRule : TextRule := { least := 1, greatest := some 50 }

def codeRule : TextRule := { least := 1, greatest := some 20, pattern := some .dialling }

def iso2Rule : TextRule := { pattern := some (.letters 2) }

def iso3Rule : TextRule := { pattern := some (.letters 3) }

/-- The names under which the dialling codes may be given. -/
def codesNames : List String := ["countryCode", "country_codes"]

/-- The draft that the fields of an object describe. -/
def ofFields (fields : List (String × Json)) : Checked Draft :=
  Draft.mk
    <$> required ["name"] (fun v => nameRule.check (trimmed v)) fields
    <*> required ["continent"] (fun v => continentRule.check (trimmed v)) fields
    <*> required codesNames (fun v => itemsAtLeast 1 codeRule.check (codeList v)) fields
    <*> required ["iso2"] iso2Rule.check fields
    <*> required ["iso3"] iso3Rule.check fields

/-- **The draft that a value describes**; `notObject` is the cause for refusing anything else than
an object. -/
def read (notObject : Cause) (v : Json) : Checked Draft := record notObject ofFields v

/-- The draft that a value describes, or the refusal of a record of its kind. -/
def readFor (purpose : Purpose) (v : Json) : Except Rejection Draft :=
  (read (.recordExpected purpose.kind) v).toExcept purpose.kind

/-! ## Changes made by hand -/

/-- New values for some parts of a draft, which are not checked. -/
structure Changes where
  name : Option String := none
  continent : Option String := none
  codes : Option (List String) := none
  iso2 : Option String := none
  iso3 : Option String := none

/-- A draft with some of its parts replaced. -/
def change (d : Draft) (c : Changes) : Draft where
  name := c.name.getD d.name
  continent := c.continent.getD d.continent
  codes := c.codes.getD d.codes
  iso2 := c.iso2.getD d.iso2
  iso3 := c.iso3.getD d.iso3

/-! ## Normal form -/

/-- **The values that are stored.** -/
def fields (d : Draft) : Fields where
  name := trim d.name
  continent := trim d.continent
  iso2 := upper (trim d.iso2)
  iso3 := upper (trim d.iso3)
  codes := (d.codes.map trim).filter (· ≠ "")

/-- A draft in an answer. -/
def json (d : Draft) : Json :=
  .object [("name", .text d.name), ("continent", .text d.continent),
    ("country_codes", .array (d.codes.map .text)), ("iso2", .text d.iso2), ("iso3", .text d.iso3)]

end Draft

/-- Stored values in an answer. -/
def Fields.json (f : Fields) : Json :=
  .object [("name", .text f.name), ("continent", .text f.continent), ("iso2", .text f.iso2),
    ("iso3", .text f.iso3), ("codes", .array (f.codes.map .text))]

end Gazetteer.Country
