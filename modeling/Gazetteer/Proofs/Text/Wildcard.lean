import Gazetteer.Proofs.Text.Trimming
import Gazetteer.Text.Occurs
import Gazetteer.Text.Wildcard
import Mathlib.Data.List.Forall2
import Mathlib.Data.List.TakeWhile

/-!
# What is put between wildcards is found literally

The pattern for a text has `/` before each special character, so that nothing of the text is taken
for a wildcard, and `%` on both its sides, so that the text may stand anywhere.  Such a pattern
covers exactly the texts in which the text occurs, letters of ASCII in either case and the three
characters that are read as the replacement character taken for one another.

* `SameLetter`, `ReadsAlike`, `Occurs`: literal occurrence, without wildcards;
* `fold_eq_iff`: characters that are compared as the same;
* `covers_escape_append`: an escaped text covers its own characters and no more;
* `covers_around`: the pattern for a text;
* `finds_iff`: what is found; `finds_eq_occursFolded`: the same with regard to NUL.
-/

namespace Gazetteer.Text

/-! ## Characters that are read alike -/

/-- **The same character**, or the same letter of ASCII in the other case. -/
def SameLetter (c d : Char) : Prop := c = d ∨ c.isAlpha ∧ d.isAlpha ∧ c.toLower = d.toLower

/-- The replacement character and the two noncharacters that are read as it. -/
def IsReplaced (c : Char) : Prop := c = '\uFFFD' ∨ c = '\uFFFE' ∨ c = '\uFFFF'

instance : DecidablePred IsReplaced := fun c =>
  inferInstanceAs (Decidable (c = '\uFFFD' ∨ c = '\uFFFE' ∨ c = '\uFFFF'))

/-- **Characters that are read alike**: the same letter, or both read as the replacement
character. -/
def ReadsAlike (c d : Char) : Prop := SameLetter c d ∨ IsReplaced c ∧ IsReplaced d

/-- **A text occurs in another one**: it stands there as it is, but for characters that are
alike. -/
def Occurs (Alike : Char → Char → Prop) (part whole : List Char) : Prop :=
  ∃ before middle after, whole = before ++ middle ++ after ∧ part.Forall₂ Alike middle

/-- **Without a replacement character** a text has to occur letter by letter. -/
theorem occurs_readsAlike_iff {part whole : List Char} (h : ∀ c ∈ part, ¬IsReplaced c) :
    Occurs ReadsAlike part whole ↔ Occurs SameLetter part whole := by
  have hletters : ∀ middle, part.Forall₂ ReadsAlike middle → part.Forall₂ SameLetter middle := by
    intro middle hmiddle
    induction hmiddle with
    | nil => exact .nil
    | cons hcd _ ih =>
      refine .cons (hcd.resolve_right fun hreplaced => ?_)
        (ih fun c hc => h c (List.mem_cons_of_mem _ hc))
      exact h _ List.mem_cons_self hreplaced.1
  constructor
  · rintro ⟨before, middle, after, hwhole, hmiddle⟩
    exact ⟨before, middle, after, hwhole, hletters middle hmiddle⟩
  · rintro ⟨before, middle, after, hwhole, hmiddle⟩
    exact ⟨before, middle, after, hwhole, hmiddle.imp fun _ _ => Or.inl⟩

theorem isAlpha_toLower {c : Char} (h : c.isUpper) : c.toLower.isAlpha :=
  of_isAlpha (P := fun c => c.toLower.isAlpha) (by decide) (isAlpha_of_isUpper h)

theorem toLower_eq_self {c : Char} (h : ¬c.isUpper) : c.toLower = c := by
  unfold Char.toLower
  rw [dif_neg]
  rintro ⟨hA, hZ⟩
  exact h (decide_eq_true ⟨hA, hZ⟩)

theorem toLower_eq_iff {c d : Char} : c.toLower = d.toLower ↔ SameLetter c d := by
  constructor
  · intro h
    by_cases hc : c.isUpper
    · by_cases hd : d.isUpper
      · exact Or.inr ⟨isAlpha_of_isUpper hc, isAlpha_of_isUpper hd, h⟩
      · have hdl : d = c.toLower := (toLower_eq_self hd).symm.trans h.symm
        exact Or.inr ⟨isAlpha_of_isUpper hc, hdl ▸ isAlpha_toLower hc, h⟩
    · by_cases hd : d.isUpper
      · have hcl : c = d.toLower := (toLower_eq_self hc).symm.trans h
        exact Or.inr ⟨hcl ▸ isAlpha_toLower hd, isAlpha_of_isUpper hd, h⟩
      · rw [toLower_eq_self hc, toLower_eq_self hd] at h
        exact Or.inl h
  · rintro (rfl | ⟨-, -, h⟩)
    · rfl
    · exact h

theorem IsReplaced.not_isAlpha {c : Char} (h : IsReplaced c) : ¬c.isAlpha := by
  rcases h with rfl | rfl | rfl <;> decide

/-- A small letter is no replacement character, nor is what has none. -/
theorem not_isReplaced_toLower {c : Char} (h : ¬IsReplaced c) : ¬IsReplaced c.toLower := by
  by_cases hc : c.isUpper
  · exact fun hreplaced => hreplaced.not_isAlpha (isAlpha_toLower hc)
  · rwa [toLower_eq_self hc]

theorem not_sameLetter {c d : Char} (hc : IsReplaced c) (hd : ¬IsReplaced d) : ¬SameLetter c d := by
  rintro (rfl | ⟨halpha, -, -⟩)
  · exact hd hc
  · exact hc.not_isAlpha halpha

theorem SameLetter.symm {c d : Char} (h : SameLetter c d) : SameLetter d c :=
  h.imp Eq.symm fun ⟨hc, hd, hcd⟩ => ⟨hd, hc, hcd.symm⟩

theorem ReadsAlike.symm {c d : Char} (h : ReadsAlike c d) : ReadsAlike d c :=
  h.imp SameLetter.symm And.symm

/-- **A replacement character is like no other one.** -/
theorem not_readsAlike {c d : Char} (hc : IsReplaced c) (hd : ¬IsReplaced d) : ¬ReadsAlike c d := by
  rintro (hsame | ⟨-, hreplaced⟩)
  · exact not_sameLetter hc hd hsame
  · exact hd hreplaced

namespace Wildcard

theorem fold_of_isReplaced {c : Char} (h : IsReplaced c) : fold c = '\uFFFD' := by
  rcases h with rfl | rfl | rfl <;> decide

theorem fold_of_not_isReplaced {c : Char} (h : ¬IsReplaced c) : fold c = c.toLower :=
  if_neg fun hreplaced => h (Or.inr hreplaced)

theorem fold_ne {c d : Char} (hc : IsReplaced c) (hd : ¬IsReplaced d) : fold c ≠ fold d := by
  rw [fold_of_isReplaced hc, fold_of_not_isReplaced hd]
  exact fun h => not_isReplaced_toLower hd (h ▸ Or.inl rfl)

/-- **Characters are compared as the same if they are read alike.** -/
theorem fold_eq_iff {c d : Char} : fold c = fold d ↔ ReadsAlike c d := by
  by_cases hc : IsReplaced c
  · by_cases hd : IsReplaced d
    · rw [fold_of_isReplaced hc, fold_of_isReplaced hd]
      exact iff_of_true rfl (Or.inr ⟨hc, hd⟩)
    · exact iff_of_false (fold_ne hc hd) (not_readsAlike hc hd)
  · by_cases hd : IsReplaced d
    · exact iff_of_false (fold_ne hd hc).symm fun h => not_readsAlike hd hc h.symm
    · rw [fold_of_not_isReplaced hc, fold_of_not_isReplaced hd, toLower_eq_iff]
      exact (or_iff_left fun h => hc h.1).symm

end Wildcard

open Wildcard (fold fold_eq_iff)

theorem forall₂_readsAlike_iff {xs ys : List Char} :
    xs.Forall₂ ReadsAlike ys ↔ xs.map fold = ys.map fold := by
  have halike : ReadsAlike = fun c d => fold c = fold d := by
    funext c d
    exact propext fold_eq_iff.symm
  rw [halike, ← List.forall₂_eq_eq_eq, List.forall₂_map_left_iff, List.forall₂_map_right_iff]

/-- A text occurs in another one if it is a part of it as the two are compared. -/
theorem occurs_iff_infix {part whole : List Char} :
    Occurs ReadsAlike part whole ↔ part.map fold <:+: whole.map fold := by
  constructor
  · rintro ⟨before, middle, after, rfl, h⟩
    rw [forall₂_readsAlike_iff.mp h]
    exact ⟨before.map fold, after.map fold, by simp⟩
  · rintro ⟨before, after, h⟩
    obtain ⟨front, rest, rfl, hfront, -⟩ := List.map_eq_append_iff.mp h.symm
    obtain ⟨before, middle, rfl, -, hmiddle⟩ := List.map_eq_append_iff.mp hfront
    exact ⟨before, middle, rest, rfl, forall₂_readsAlike_iff.mpr hmiddle.symm⟩

namespace Wildcard

variable {α : Type} {part ps cs : List Char}

/-! ## Patterns -/

theorem anyEnd_iff {p : List α → Bool} {xs : List α} :
    anyEnd p xs ↔ ∃ front rest, xs = front ++ rest ∧ p rest := by
  induction xs with
  | nil => simp [anyEnd]
  | cons x xs ih =>
    rw [anyEnd, Bool.or_eq_true, ih]
    constructor
    · rintro (h | ⟨front, rest, rfl, h⟩)
      · exact ⟨[], x :: xs, rfl, h⟩
      · exact ⟨x :: front, rest, rfl, h⟩
    · rintro ⟨front, rest, heq, h⟩
      cases front with
      | nil => exact Or.inl (by rwa [heq])
      | cons y front =>
        cases heq
        exact Or.inr ⟨front, rest, rfl, h⟩

/-- **A character that is escaped covers itself**, and the rest of the pattern what follows. -/
theorem covers_escapeChar_append (c : Char) (ps : List Char) :
    covers (escapeChar c ++ ps) = headAnd (alike c) (covers ps) := by
  unfold escapeChar
  by_cases hc : isSpecial c
  · rw [if_pos hc]
    rfl
  · rw [if_neg hc, List.singleton_append]
    simp only [isSpecial, Bool.or_eq_true, decide_eq_true_eq, not_or] at hc
    obtain ⟨⟨hmany, hone⟩, hescape⟩ := hc
    rw [covers]
    · exact hmany
    · exact hone
    · exact fun h _ => hescape h
    · exact fun _ _ h _ => hescape h

/-- **An escaped text covers its own characters**, and others that are read alike, and the rest of
the pattern what follows. -/
theorem covers_escape_append : covers (escape part ++ ps) cs ↔
    ∃ middle rest, cs = middle ++ rest ∧ part.map fold = middle.map fold ∧
      covers ps rest := by
  induction part generalizing cs with
  | nil => simp [escape]
  | cons c part ih =>
    rw [escape, List.flatMap_cons, List.append_assoc, covers_escapeChar_append]
    cases cs with
    | nil => simp [headAnd]
    | cons d cs =>
      rw [headAnd, Bool.and_eq_true, alike, decide_eq_true_eq, ← escape, ih]
      constructor
      · rintro ⟨hcd, middle, rest, rfl, hmiddle, hrest⟩
        exact ⟨d :: middle, rest, rfl, by rw [List.map_cons, hcd, hmiddle, List.map_cons], hrest⟩
      · rintro ⟨middle, rest, heq, hmiddle, hrest⟩
        cases middle with
        | nil => cases hmiddle
        | cons e middle =>
          cases heq
          obtain ⟨hcd, hmiddle⟩ := List.cons.inj hmiddle
          exact ⟨hcd, middle, rest, rfl, hmiddle, hrest⟩

/-- A text behind one wildcard stands anywhere, the rest of the pattern covers what follows. -/
theorem covers_many_escape_append : covers ('%' :: (escape part ++ ps)) cs ↔
    ∃ before middle rest, cs = before ++ middle ++ rest ∧
      part.map fold = middle.map fold ∧ covers ps rest := by
  rw [covers, anyEnd_iff]
  simp only [covers_escape_append]
  constructor
  · rintro ⟨before, _, rfl, middle, rest, rfl, hmiddle, hrest⟩
    exact ⟨before, middle, rest, (List.append_assoc ..).symm, hmiddle, hrest⟩
  · rintro ⟨before, middle, rest, rfl, hmiddle, hrest⟩
    exact ⟨before, middle ++ rest, List.append_assoc .., middle, rest, rfl, hmiddle, hrest⟩

theorem covers_many (cs : List Char) : covers ['%'] cs := by
  rw [covers, anyEnd_iff]
  exact ⟨cs, [], (List.append_nil cs).symm, rfl⟩

/-- **The pattern for a text covers the texts in which it occurs.** -/
theorem covers_around {whole : List Char} :
    covers (around part) whole ↔ Occurs ReadsAlike part whole := by
  rw [around, List.cons_append, covers_many_escape_append]
  simp only [covers_many, and_true, Occurs, forall₂_readsAlike_iff]

/-- Without the second wildcard the text has to stand at the end. -/
theorem covers_many_escape {whole : List Char} : covers ('%' :: escape part) whole ↔
    part.map fold <:+ whole.map fold := by
  rw [← List.append_nil (escape part), covers_many_escape_append]
  simp only [covers, List.isEmpty_iff]
  constructor
  · rintro ⟨before, middle, _, rfl, hmiddle, rfl⟩
    rw [hmiddle, List.append_nil, List.map_append]
    exact List.suffix_append ..
  · rintro ⟨before, h⟩
    obtain ⟨before, middle, rfl, -, hmiddle⟩ := List.map_eq_append_iff.mp h.symm
    exact ⟨before, middle, [], (List.append_nil _).symm, hmiddle.symm, rfl⟩

/-! ## NUL -/

theorem upToNul_eq_self (h : '\x00' ∉ cs) : upToNul cs = cs := by
  rw [upToNul, List.takeWhile_eq_self_iff]
  intro c hc
  simp only [ne_eq, decide_not, Bool.not_eq_true', decide_eq_false_iff_not]
  rintro rfl
  exact h hc

/-- A text ends before its first NUL. -/
theorem upToNul_append_nul (h : '\x00' ∉ cs) (ps : List Char) :
    upToNul (cs ++ '\x00' :: ps) = cs := by
  have hcs : cs.takeWhile (· ≠ '\x00') = cs := upToNul_eq_self h
  rw [upToNul, List.takeWhile_append, hcs, if_pos rfl]
  simp

theorem nul_mem_escape : '\x00' ∈ escape cs ↔ '\x00' ∈ cs := by
  rw [escape, List.mem_flatMap]
  constructor
  · rintro ⟨c, hc, h⟩
    unfold escapeChar at h
    split at h
    · rcases List.mem_cons.mp h with h | h
      · exact absurd h (by decide)
      · exact List.mem_singleton.mp h ▸ hc
    · exact List.mem_singleton.mp h ▸ hc
  · exact fun h => ⟨'\x00', h, by decide⟩

theorem upToNul_around (h : '\x00' ∉ part) : upToNul (around part) = around part := by
  refine upToNul_eq_self ?_
  simpa [around, nul_mem_escape] using h

/-- The pattern for a text with a NUL ends there, without its second wildcard. -/
theorem upToNul_around_of_mem (h : '\x00' ∈ part) :
    upToNul (around part) = '%' :: escape (upToNul part) := by
  obtain ⟨before, after, rfl, hbefore⟩ := List.eq_append_cons_of_mem h
  have hpattern : around (before ++ '\x00' :: after) =
      ('%' :: escape before) ++ '\x00' :: (escape after ++ ['%']) := by
    simp [around, escape, escapeChar, isSpecial]
  rw [hpattern, upToNul_append_nul hbefore, upToNul_append_nul]
  simpa [nul_mem_escape] using hbefore

/-! ## What is found -/

/-- **A text without a NUL is found where it occurs**, whatever special characters it has. -/
theorem finds_iff {whole : List Char} (hp : '\x00' ∉ part) (hw : '\x00' ∉ whole) :
    finds part whole ↔ Occurs ReadsAlike part whole := by
  rw [finds, like, upToNul_around hp, upToNul_eq_self hw, covers_around]

/-- **In general texts end at their first NUL**, and one that has a NUL is found at the end. -/
theorem finds_eq_occursFolded (part whole : List Char) :
    finds part whole = occursFolded part whole := by
  rw [Bool.eq_iff_iff, finds, like, occursFolded]
  by_cases h : '\x00' ∈ part
  · rw [upToNul_around_of_mem h, covers_many_escape, if_pos (by simpa using h),
      List.isSuffixOf_iff_suffix]
    rfl
  · rw [upToNul_around h, covers_around, occurs_iff_infix, if_neg (by simpa using h), occurs_iff]
    change _ ↔ (upToNul part).map fold <:+: (upToNul whole).map fold
    rw [upToNul_eq_self h]

end Wildcard

end Gazetteer.Text
