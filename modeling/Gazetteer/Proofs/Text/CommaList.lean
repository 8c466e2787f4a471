import Gazetteer.Proofs.Json.Points
import Gazetteer.Proofs.Text.Separation

/-!
# Lists written with commas

A text lists its parts however it is laid out: blanks may stand around a part, and pieces of blanks
only may stand between the commas.  So the parts of two texts with a comma between them are those of
the one and then those of the other, and a list of parts is found again in every text that lists it.
This is proved for any separator that is not blank, and holds of texts and of torn texts alike.

* `IsPart`: what a part is;
* `Spells`, `IsListOf`: the pieces, and the texts, that list some parts;
* `isListOf_iff`: a text lists the parts that it is split into, and no others;
* `ListLaws`, `listLaws`: the laws of lists; `commaLists`: those of texts with commas.
-/

namespace Gazetteer.Text

section
variable {α : Type} {sep : α} {p : α → Bool} {cs : List α}
  {pieces parts : List (List α)}

/-! ## Parts -/

/-- The parts between separators, trimmed, without the empty ones. -/
def partsBetween [DecidableEq α] (sep : α) (p : α → Bool) (cs : List α) : List (List α) :=
  ((splitAt sep cs).map (trimBy p)).filter (!·.isEmpty)

/-- **A part**: neither empty nor with a separator in it, and not blank at its ends. -/
structure IsPart (sep : α) (p : α → Bool) (part : List α) : Prop where
  ne_nil : part ≠ []
  sep_not_mem : sep ∉ part
  first : ∀ c ∈ part.head?, p c = false
  last : ∀ c ∈ part.getLast?, p c = false

theorem mem_of_mem_trimBy {c : α} (h : c ∈ trimBy p cs) : c ∈ cs := by
  obtain ⟨⟨before, after, hcs, -⟩, -, -⟩ := trims_trimBy p cs
  rw [hcs]
  simp [h]

theorem isPart_of_mem [DecidableEq α] {part : List α} (h : part ∈ partsBetween sep p cs) :
    IsPart sep p part := by
  obtain ⟨hmem, hne⟩ := List.mem_filter.mp h
  obtain ⟨piece, hpiece, rfl⟩ := List.mem_map.mp hmem
  exact ⟨by simpa using hne, fun hsep => not_mem_of_mem_splitAt hpiece (mem_of_mem_trimBy hsep),
    fun _ hc => head?_trimBy hc, fun _ hc => getLast?_trimBy hc⟩

theorem partsBetween_append [DecidableEq α] (sep : α) (p : α → Bool) (xs ys : List α) :
    partsBetween sep p (xs ++ sep :: ys) = partsBetween sep p xs ++ partsBetween sep p ys := by
  simp only [partsBetween, splitAt_append, List.map_append, List.filter_append]

/-! ## Pieces -/

/-- **Pieces that list parts**: in their order each part makes up a piece, with blanks before and
after it, and all other pieces are blank. -/
inductive Spells (p : α → Bool) : List (List α) → List (List α) → Prop
  | nil : Spells p [] []
  | blank {piece : List α} {pieces parts : List (List α)} (hpiece : ∀ c ∈ piece, p c)
      (h : Spells p pieces parts) : Spells p (piece :: pieces) parts
  | part {before part after : List α} {pieces parts : List (List α)}
      (hbefore : ∀ c ∈ before, p c) (hafter : ∀ c ∈ after, p c) (h : Spells p pieces parts) :
      Spells p ((before ++ part ++ after) :: pieces) (part :: parts)

/-- **A text that lists parts.** -/
def IsListOf (sep : α) (p : α → Bool) (cs : List α) (parts : List (List α)) : Prop :=
  ∃ pieces, cs = joinWith sep pieces ∧ Spells p pieces parts

/-- Pieces list what is left of them when they are trimmed. -/
theorem spells_trimmed (p : α → Bool) (pieces : List (List α)) :
    Spells p pieces ((pieces.map (trimBy p)).filter (!·.isEmpty)) := by
  induction pieces with
  | nil => exact .nil
  | cons piece pieces ih =>
    obtain ⟨⟨before, after, hpiece, hbefore, hafter⟩, -, -⟩ := trims_trimBy p piece
    rw [List.map_cons]
    by_cases hnil : trimBy p piece = []
    · rw [List.filter_cons_of_neg (by simp [hnil])]
      refine .blank (fun c hc => ?_) ih
      rw [hpiece, hnil, List.append_nil] at hc
      exact (List.mem_append.mp hc).elim (hbefore c) (hafter c)
    · rw [List.filter_cons_of_pos (by simpa using hnil)]
      have hspells : Spells p ((before ++ trimBy p piece ++ after) :: pieces) _ :=
        .part hbefore hafter ih
      rwa [← hpiece] at hspells

/-- No piece holds a separator, which is neither blank nor in a part. -/
theorem Spells.sep_not_mem (hsep : p sep = false) (hparts : ∀ part ∈ parts, IsPart sep p part)
    (h : Spells p pieces parts) : ∀ piece ∈ pieces, sep ∉ piece := by
  have hblank : ∀ cs : List α, (∀ c ∈ cs, p c) → sep ∉ cs := by
    intro cs hcs hmem
    rw [hcs sep hmem] at hsep
    cases hsep
  induction h with
  | nil => exact nofun
  | blank hpiece _ ih =>
    exact List.forall_mem_cons.mpr ⟨hblank _ hpiece, ih hparts⟩
  | part hbefore hafter _ ih =>
    obtain ⟨hpart, hparts⟩ := List.forall_mem_cons.mp hparts
    refine List.forall_mem_cons.mpr ⟨?_, ih hparts⟩
    simp only [List.mem_append, not_or]
    exact ⟨⟨hblank _ hbefore, hpart.sep_not_mem⟩, hblank _ hafter⟩

/-- Trimming the pieces gives the parts back. -/
theorem Spells.trimmed_eq (hparts : ∀ part ∈ parts, IsPart sep p part) (h : Spells p pieces parts) :
    (pieces.map (trimBy p)).filter (!·.isEmpty) = parts := by
  induction h with
  | nil => rfl
  | blank hpiece _ ih =>
    rw [List.map_cons, trimBy_of_all (List.all_eq_true.mpr hpiece),
      List.filter_cons_of_neg (by simp), ih hparts]
  | @part before part after _ _ hbefore hafter _ ih =>
    obtain ⟨hpart, hparts⟩ := List.forall_mem_cons.mp hparts
    have htrim : part = trimBy p (before ++ part ++ after) :=
      Trims.eq_trimBy ⟨⟨before, after, rfl, hbefore, hafter⟩, hpart.first, hpart.last⟩
    rw [List.map_cons, ← htrim, List.filter_cons_of_pos (by simpa using hpart.ne_nil), ih hparts]

/-- **Pieces between separators are found again.** -/
theorem partsBetween_joinWith [DecidableEq α] (h : ∀ piece ∈ pieces, sep ∉ piece) :
    partsBetween sep p (joinWith sep pieces) = (pieces.map (trimBy p)).filter (!·.isEmpty) := by
  by_cases hne : pieces = []
  · subst hne
    rfl
  · rw [partsBetween, splitAt_joinWith hne h]

/-- **A text lists its parts, and no others.** -/
theorem isListOf_iff [DecidableEq α] (hsep : p sep = false)
    (hparts : ∀ part ∈ parts, IsPart sep p part) :
    IsListOf sep p cs parts ↔ partsBetween sep p cs = parts := by
  constructor
  · rintro ⟨pieces, rfl, h⟩
    rw [partsBetween_joinWith (h.sep_not_mem hsep hparts), h.trimmed_eq hparts]
  · rintro rfl
    exact ⟨splitAt sep cs, (joinWith_splitAt sep cs).symm, spells_trimmed p _⟩

/-- Parts with nothing but a separator between them. -/
theorem isListOf_joinWith (sep : α) (p : α → Bool) (parts : List (List α)) :
    IsListOf sep p (joinWith sep parts) parts := by
  refine ⟨parts, rfl, ?_⟩
  induction parts with
  | nil => exact .nil
  | cons part parts ih =>
    have hspells : Spells p (([] ++ part ++ []) :: parts) (part :: parts) := .part nofun nofun ih
    rwa [List.nil_append, List.append_nil] at hspells

/-! ## The laws -/

/-- **The laws of lists** in writing; `split` finds the parts of a text. -/
structure ListLaws (sep : α) (p : α → Bool) (split : List α → List (List α)) : Prop where
  /-- A separator between two texts separates their parts. -/
  append : ∀ xs ys, split (xs ++ sep :: ys) = split xs ++ split ys
  isPart : ∀ cs, ∀ part ∈ split cs, IsPart sep p part
  /-- Parts are found again between separators, -/
  joined : ∀ parts, (∀ part ∈ parts, IsPart sep p part) → split (joinWith sep parts) = parts
  /-- and in exactly those texts that list them. -/
  listed_iff : ∀ parts, (∀ part ∈ parts, IsPart sep p part) → ∀ cs,
    (IsListOf sep p cs parts ↔ split cs = parts)
  /-- What was split once is found again in any text that lists it. -/
  again : ∀ cs ds, IsListOf sep p ds (split cs) → split ds = split cs

theorem listLaws [DecidableEq α] (hsep : p sep = false) : ListLaws sep p (partsBetween sep p) where
  append := partsBetween_append sep p
  isPart _ _ h := isPart_of_mem h
  joined parts h := (isListOf_iff hsep h).mp (isListOf_joinWith sep p parts)
  listed_iff _ h _ := isListOf_iff hsep h
  again _ _ h := (isListOf_iff hsep fun _ => isPart_of_mem).mp h

end

/-! ## Texts with commas -/

theorem toList_intercalate (parts : List String) :
    (String.intercalate "," parts).toList = joinWith ',' (parts.map String.toList) := by
  induction parts with
  | nil => rfl
  | cons part parts ih =>
    cases parts with
    | nil => rfl
    | cons next parts =>
      rw [String.intercalate_cons_cons, String.toList_append, String.toList_append, ih,
        List.append_assoc]
      rfl

/-- **A text that may be listed**: neither empty nor with a comma, nor with blanks at its ends. -/
def IsListable (s : String) : Prop := IsPart ',' isBlank s.toList

/-- **A text that lists others** between commas, with any blanks around them and any blank
pieces. -/
def ListsTexts (s : String) (parts : List String) : Prop :=
  IsListOf ',' isBlank s.toList (parts.map String.toList)

theorem map_toList_commaParts (s : String) :
    (commaParts s).map String.toList = partsBetween ',' isBlank s.toList := by
  have hback : String.toList ∘ String.ofList = id := funext fun _ => String.toList_ofList
  rw [commaParts, List.map_map, hback, List.map_id]
  rfl

theorem map_toList_inj {xs ys : List String} :
    xs.map String.toList = ys.map String.toList ↔ xs = ys :=
  (List.map_injective_iff.mpr fun _ _ => String.toList_inj.mp).eq_iff

theorem isListable_of_mem {s part : String} (h : part ∈ commaParts s) : IsListable part :=
  isPart_of_mem (map_toList_commaParts s ▸ List.mem_map_of_mem h)

theorem listsTexts_iff {s : String} {parts : List String} (h : ∀ part ∈ parts, IsListable part) :
    ListsTexts s parts ↔ commaParts s = parts := by
  rw [ListsTexts, isListOf_iff (by decide) (List.forall_mem_map.mpr h), ← map_toList_commaParts,
    map_toList_inj]

theorem listsTexts_intercalate (parts : List String) :
    ListsTexts (String.intercalate "," parts) parts := by
  rw [ListsTexts, toList_intercalate]
  exact isListOf_joinWith _ _ _

/-- **The laws of lists with commas.** -/
structure CommaLists : Prop where
  /-- A comma between two texts separates their parts. -/
  append : ∀ a b : String, commaParts (a ++ "," ++ b) = commaParts a ++ commaParts b
  isListable : ∀ s, ∀ part ∈ commaParts s, IsListable part
  /-- Texts are found again between commas, -/
  joined : ∀ parts, (∀ part ∈ parts, IsListable part) →
    commaParts (String.intercalate "," parts) = parts
  /-- and in exactly those texts that list them. -/
  listed_iff : ∀ parts, (∀ part ∈ parts, IsListable part) → ∀ s,
    (ListsTexts s parts ↔ commaParts s = parts)
  /-- What was split once is found again in any text that lists it. -/
  again : ∀ s t, ListsTexts t (commaParts s) → commaParts t = commaParts s
  /-- The same holds of all texts by their code points, torn ones among them. -/
  torn : ListLaws ','.toNat Json.isBlankPoint Json.pointParts

/-- **Splitting at commas takes a text apart as it was put together.** -/
theorem commaLists : CommaLists where
  append := commaParts_append
  isListable _ _ h := isListable_of_mem h
  joined parts h := (listsTexts_iff h).mp (listsTexts_intercalate parts)
  listed_iff _ h _ := listsTexts_iff h
  again _ _ h := (listsTexts_iff fun _ => isListable_of_mem).mp h
  torn := listLaws (by decide)

/-- The same codes, laid out in another way; the second one is given twice. -/
example : commaParts "\t1-809 , ,1-829,\n1-829\x0c,," = ["1-809", "1-829", "1-829"] := by decide

end Gazetteer.Text
