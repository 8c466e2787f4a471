import Gazetteer.Text.Direction
import Gazetteer.Text.Joining
import Gazetteer.Url.Mapping
import Gazetteer.Url.Punycode

/-!
# Domains

A domain is a row of labels with points between them.  It is looked up in ASCII, so a label with
other characters is written in ASCII, behind a mark that tells; and a label with this mark has to
stand for one that could not be written otherwise.

* `Domain.toAscii?`: the domain that is looked up, if the characters denote one.
-/

namespace Gazetteer.Domain

open Text

/-- A character of ASCII that no domain may hold. -/
def isForbidden (c : Char) : Bool :=
  c.toNat ≤ 0x20 || c.toNat = 0x7F || "%#/:<>?@[\\]^|".toList.contains c

/-- The mark of a label that is written in ASCII. -/
def mark : List Char := "xn--".toList

def isMarked (label : List Char) : Bool := mark.isPrefixOf label

def isAscii (cs : List Char) : Bool := cs.all fun c => c.toNat < 128

/-- The characters that a label stands for: those behind its mark, decoded, or its own. -/
def meaning? (label : List Char) : Option (List Char) :=
  if isMarked label then
    ((Punycode.decode? (label.drop mark.length)).filter fun text =>
      isAscii label && !isAscii text && !isMarked text && isStable text)
  else some label

/-- The number of characters that a label with characters outside ASCII may have. -/
def greatestLength : Nat := 1000

/-- Whether characters make a label: the first one is not a mark on another character, and joiners
mean something. -/
def isLabel (cs : List Char) : Bool :=
  !(cs.head?.any isMark) && joinersFit cs && (isAscii cs || cs.length ≤ greatestLength)

/-- **The domain that is looked up.** -/
def toAscii? (cs : List Char) : Option (List Char) := do
  let mapped ← mapped? cs
  let labels := splitAt '.' mapped
  let meanings ← labels.mapM meaning?
  if !mapped.any isForbidden && meanings.all isLabel && directionsFit meanings then
    some (joinWith '.' (labels.map Punycode.encodeLabel))
  else none

/-! ## ASCII -/

theorem mem_of_mem_splitAt {sep c : Char} {cs part : List Char} (hp : part ∈ splitAt sep cs)
    (hc : c ∈ part) : c ∈ cs := by
  induction cs generalizing part with
  | nil => simp_all [splitAt]
  | cons d cs ih =>
    by_cases h : d = sep
    · simp only [splitAt, h, if_true, List.mem_cons] at hp
      rcases hp with rfl | hp
      · simp at hc
      · exact List.mem_cons_of_mem _ (ih hp hc)
    · obtain ⟨p, ps, hs, he⟩ := splitAt_cons_of_ne h cs
      rw [he, List.mem_cons] at hp
      rcases hp with rfl | hp
      · rcases List.mem_cons.mp hc with rfl | hc
        · simp
        · exact List.mem_cons_of_mem _ (ih (by simp [hs]) hc)
      · exact List.mem_cons_of_mem _ (ih (by simp [hs, hp]) hc)

end Gazetteer.Domain
