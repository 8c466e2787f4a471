import Gazetteer.Text.Composition
import Gazetteer.Url.MappingTable

/-!
# The characters of domains

A domain may be written in many ways: in capitals, in wide letters, with invisible characters.
Every character is replaced by the ones that stand for it in the one form that is looked up, or is
not allowed at all, and what comes out is composed.

* `mapped?`: the characters of a domain in that form;
* `isStable`: whether characters are in that form already.
-/

namespace Gazetteer.Domain

open Text

def mappings : List Mapping := CodeTable.mappings mappingRows

def ignoredSpans : List (Nat × Nat) := CodeTable.spans ignoredRows

def disallowedSpans : List (Nat × Nat) := CodeTable.spans disallowedRows

/-- What stands for a character, unless it is not allowed. -/
def mapChar? (c : Char) : Option (List Char) :=
  if c.toNat < 128 then some [c.toLower]
  else if inSpans ignoredSpans c then some []
  else if inSpans disallowedSpans c then none
  else
    match mappings.findSome? (·.image? c.toNat) with
    | some points => some (points.map Char.ofNat)
    | none => some [c]

/-- **The characters that are looked up for a domain**, unless one is not allowed. -/
def mapped? (cs : List Char) : Option (List Char) :=
  (cs.mapM mapChar?).map fun images => composed images.flatten

/-- **Whether characters are in the form that is looked up.** -/
def isStable (cs : List Char) : Bool := mapped? cs = some cs

end Gazetteer.Domain
