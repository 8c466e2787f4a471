import Gazetteer.Text.Wildcard

/-!
# Occurrences of a text in another

Capital and small letters of ASCII count as the same, and so do the replacement character and the
two noncharacters that are read as it; all other characters count only as themselves.  A NUL ends a
text: what follows it is not looked at, and a text that is sought only up to a NUL has to stand at
the end.

* `occurs`: whether a list occurs in another one;
* `occursFolded`: the same for characters without regard to case.
-/

namespace Gazetteer.Text

/-- Whether `part` occurs in a list as a contiguous part. -/
def occurs [BEq α] (part : List α) : List α → Bool
  | [] => part.isEmpty
  | c :: cs => part.isPrefixOf (c :: cs) || occurs part cs

/-- A text up to its first NUL, by what its characters are compared as. -/
def folded (cs : List Char) : List Char := (cs.takeWhile (· ≠ '\x00')).map Wildcard.fold

/-- **Whether a text occurs in another one**, without regard to the case of ASCII letters. -/
def occursFolded (part whole : List Char) : Bool :=
  if part.contains '\x00' then (folded part).isSuffixOf (folded whole)
  else occurs (folded part) (folded whole)

/-- **An occurrence is a contiguous part.** -/
theorem occurs_iff [BEq α] [LawfulBEq α] {part cs : List α} : occurs part cs ↔ part <:+: cs := by
  induction cs with
  | nil => simp [occurs]
  | cons c cs ih =>
    simp only [occurs, Bool.or_eq_true, ih, List.isPrefixOf_iff_prefix]
    exact List.infix_cons_iff.symm

end Gazetteer.Text
