import Gazetteer.Store.Basic

/-!
# Probing the tables

Before a country is written, the tables are asked whether another country has one of its values.

* `contains`: whether a country has a number;
* `isUsed`: whether a country, or another country than a given one, has a value.
-/

namespace Gazetteer.Store

/-- **Whether a country has a number.** -/
def contains (s : Store) (id : Int) : Except Fault Bool := do
  checkId id
  .ok (s.country? id).isSome

/-- A value by which a country can be told. -/
inductive Mark where
  | name
  | iso2
  | iso3
  | countryCode
  deriving DecidableEq, Repr

/-- Whether a country other than the excluded one has a value. -/
def hasMark (s : Store) (mark : Mark) (value : String) (excluded : Option Int) : Bool :=
  match mark with
  | .name => s.countries.any fun r => r.name = value && some r.id ≠ excluded
  | .iso2 => s.countries.any fun r => r.iso2 = value && some r.id ≠ excluded
  | .iso3 => s.countries.any fun r => r.iso3 = value && some r.id ≠ excluded
  | .countryCode => s.codes.any fun r => r.code = value && some r.countryId ≠ excluded

/-- **Whether a country other than the excluded one has a value**, which cannot be told of a number
that no country can have. -/
def isUsed (s : Store) (mark : Mark) (value : String) (excluded : Option Int) :
    Except Fault Bool :=
  if excluded.all fits then .ok (s.hasMark mark value excluded) else .error .outOfRange

end Gazetteer.Store
