import Gazetteer.Validation.Rule

/-!
# Countries in answers

A `Detail` is a country as answers show it, with all of its dialling codes.  Its fields are written
in camel case; they are also accepted under a second spelling.  The texts of a country that is
stored are texts of characters; those of a country that is read may be torn, and are kept by their
code points.

* `Detail.read`: the country that a JSON value shows;
* `Detail.json`: a country as a JSON value; `Detail.jsonBy`: the same, given how texts are written.
-/

namespace Gazetteer.Country

open Validation

/-- **A dialling code of a country.** -/
structure CodeDetail (τ : Type := String) where
  id : Int
  code : τ
  isPrimary : Bool
  deriving DecidableEq, Repr

namespace CodeDetail

variable {τ σ : Type}

def ofFields (fields : List (String × Json)) : Checked (CodeDetail (List Nat)) :=
  CodeDetail.mk
    <$> required ["id"] integer fields
    <*> required ["code"] textPoints fields
    <*> required ["isPrimary", "is_primary"] flag fields

/-- The code that a value shows. -/
def read (v : Json) : Checked (CodeDetail (List Nat)) := record .attributesExpected ofFields v

/-- A code as a value, given how its text is written. -/
def jsonBy (write : τ → Json) (c : CodeDetail τ) : Json :=
  .object [("id", .int c.id), ("code", write c.code), ("isPrimary", .bool c.isPrimary)]

/-- A code with another kind of text. -/
def map (f : τ → σ) (c : CodeDetail τ) : CodeDetail σ := ⟨c.id, f c.code, c.isPrimary⟩

end CodeDetail

/-- **A country with its dialling codes.** -/
structure Detail (τ : Type := String) where
  id : Int
  name : τ
  continent : τ
  primaryCode : Option τ
  codes : List (CodeDetail τ)
  iso2 : τ
  iso3 : τ
  created : Moment
  modified : Moment
  deriving DecidableEq, Repr

namespace Detail

variable {τ σ : Type}

def primaryCodeNames : List String := ["countryCode", "country_code", "primary_code"]

def codesNames : List String := ["countryCodes", "country_codes", "codes"]

def ofFields (fields : List (String × Json)) : Checked (Detail (List Nat)) :=
  Detail.mk
    <$> required ["id"] integer fields
    <*> required ["name"] textPoints fields
    <*> required ["continent"] textPoints fields
    <*> withDefault primaryCodeNames none (optional textPoints) fields
    <*> withDefault codesNames [] (items CodeDetail.read) fields
    <*> required ["iso2"] textPoints fields
    <*> required ["iso3"] textPoints fields
    <*> required ["createdDate", "created_date"] moment fields
    <*> required ["modifiedDate", "modified_date"] moment fields

/-- **The country that a value shows.** -/
def read (v : Json) : Checked (Detail (List Nat)) := record .attributesExpected ofFields v

/-- The kind of record under which a country is refused. -/
def kind : String := "CountryDetail"

/-- The fields of a country in an answer, given how texts are written. -/
def jsonFields (write : τ → Json) (d : Detail τ) : List (String × Json) :=
  [("id", .int d.id), ("name", write d.name), ("continent", write d.continent),
    ("countryCode", (d.primaryCode.map write).getD .null),
    ("countryCodes", .array (d.codes.map (CodeDetail.jsonBy write))),
    ("iso2", write d.iso2), ("iso3", write d.iso3), ("createdDate", .text d.created.text),
    ("modifiedDate", .text d.modified.text)]

/-- A country as a value, given how texts are written. -/
def jsonBy (write : τ → Json) (d : Detail τ) : Json := .object (d.jsonFields write)

/-- **A country as a value.** -/
def json (d : Detail) : Json := d.jsonBy .text

/-- A country with another kind of texts. -/
def map (f : τ → σ) (d : Detail τ) : Detail σ where
  id := d.id
  name := f d.name
  continent := f d.continent
  primaryCode := d.primaryCode.map f
  codes := d.codes.map (CodeDetail.map f)
  iso2 := f d.iso2
  iso3 := f d.iso3
  created := d.created
  modified := d.modified

end Detail

end Gazetteer.Country
