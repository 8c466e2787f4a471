import Gazetteer.Store.Probe
import Gazetteer.Text.Quoted

/-!
# Conflicts between countries

No two countries may share a name, an ISO code or a dialling code.  Before a draft is written, its
values are looked up in this order, the dialling codes in the order in which they are given; the
first one that another country has is reported.

* `conflict`: the first value of a draft that another country has.
-/

namespace Gazetteer

open Store Text

/-- **A value that another country has already.** -/
structure Conflict where
  mark : Mark
  value : String
  deriving DecidableEq, Repr

namespace Conflict

/-- The name of the field. -/
def field (c : Conflict) : String :=
  match c.mark with
  | .name => "name"
  | .iso2 => "iso2"
  | .iso3 => "iso3"
  | .countryCode => "countryCode"

/-- A conflict in a sentence. -/
def text (c : Conflict) : String :=
  match c.mark with
  | .name => "A country with this name already exists"
  | .iso2 => "A country with this ISO2 code already exists"
  | .iso3 => "A country with this ISO3 code already exists"
  | .countryCode => "A country with this country code already exists"

/-- A conflict in a sentence, with field and value. -/
def message (c : Conflict) : String :=
  c.text ++ " (" ++ c.field ++ "=" ++ quoted c.value ++ ")"

end Conflict

/-- The values by which a country can be told, in the order in which they are looked up. -/
def Country.Fields.marks (f : Country.Fields) : List (Mark × String) :=
  [(.name, f.name), (.iso2, f.iso2), (.iso3, f.iso3)] ++ f.codes.map (.countryCode, ·)

/-- The first of some values that a country other than the excluded one has. -/
def firstUsed (s : Store) (excluded : Option Int) :
    List (Mark × String) → Except Store.Fault (Option Conflict)
  | [] => .ok none
  | (mark, value) :: rest => do
    if ← s.isUsed mark value excluded then .ok (some ⟨mark, value⟩) else firstUsed s excluded rest

/-- **The first value that a country other than the excluded one has.** -/
def conflict (s : Store) (f : Country.Fields) (excluded : Option Int) :
    Except Store.Fault (Option Conflict) := firstUsed s excluded f.marks

end Gazetteer
