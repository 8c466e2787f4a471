import Gazetteer.Json.Points
import Gazetteer.Proofs.Text.Trimming

/-!
# Texts by their code points

What is done to a text, character by character, and what is done to a torn one, code point by code
point, is the same: both are trimmed alike, and both have the same parts.

* `trimBy_map`, `splitAt_map`: trimming and splitting under other names of the characters;
* `Json.textOf`: the text that code points make up;
* `Json.ofPoints_eq_text_iff`: code points that make up a text;
* `Json.IsText`, `Json.IsText.codePoints_textOf`: code points of characters only;
* `Json.trimPoints_toNat`, `Json.pointParts_toNat`: a text is treated as its code points are.
-/

namespace Gazetteer

namespace Text

variable {α β : Type} {f : α → β}

theorem trimBy_map (f : α → β) (p : β → Bool) (cs : List α) :
    trimBy p (cs.map f) = (trimBy (p ∘ f) cs).map f := by
  rw [trimBy, List.dropWhile_map, ← List.map_reverse, List.dropWhile_map, ← List.map_reverse,
    trimBy]

theorem splitAt_map [DecidableEq α] [DecidableEq β] (hf : Function.Injective f) (sep : α)
    (cs : List α) : splitAt (f sep) (cs.map f) = (splitAt sep cs).map (List.map f) := by
  induction cs with
  | nil => rfl
  | cons c cs ih =>
    rw [List.map_cons, splitAt, splitAt, ih]
    by_cases hc : c = sep
    · rw [if_pos hc, if_pos (congrArg f hc)]
      rfl
    · rw [if_neg hc, if_neg (hf.ne hc)]
      cases splitAt sep cs <;> rfl

end Text

namespace Json

open Text

variable {points : List Nat} {s : String}

/-- The text that code points make up, if none of them is half a surrogate pair. -/
def textOf (points : List Nat) : String := String.ofList (points.map Char.ofNat)

theorem isHalf_toNat (c : Char) : isHalf c.toNat = false := by
  have hvalid : c.toNat.isValidChar := c.valid
  simp only [isHalf, Bool.and_eq_false_iff, decide_eq_false_iff_not]
  omega

theorem ofNat_of_isHalf {point : Nat} (h : isHalf point) : Char.ofNat point = '\x00' := by
  simp only [isHalf, Bool.and_eq_true, decide_eq_true_eq] at h
  have hnot : ¬point.isValidChar := by
    simp only [Nat.isValidChar]
    omega
  rw [Char.ofNat, dif_neg hnot]
  rfl

theorem toNat_ofNat (p : Nat) : (Char.ofNat p).toNat = if p.isValidChar then p else 0 := by
  by_cases hp : p.isValidChar
  · rw [Char.ofNat, dif_pos hp, if_pos hp]
    rfl
  · rw [Char.ofNat, dif_neg hp, if_neg hp]
    rfl

@[simp] theorem textOf_toNat (s : String) : textOf (s.toList.map Char.toNat) = s := by
  have hid : Char.ofNat ∘ Char.toNat = id := funext Char.ofNat_toNat
  rw [textOf, List.map_map, hid, List.map_id, String.ofList_toList]

/-- **Code points make up a text if and only if none of them is half a surrogate pair.** -/
theorem ofPoints_eq_text_iff :
    ofPoints points = .text s ↔ (∀ p ∈ points, isHalf p = false) ∧ s = textOf points := by
  unfold ofPoints
  by_cases h : points.any isHalf
  · rw [if_pos h]
    obtain ⟨p, hp, hhalf⟩ := List.any_eq_true.mp h
    exact iff_of_false nofun fun hall => by simp [hall.1 p hp] at hhalf
  · rw [if_neg h]
    simp only [List.any_eq_true, not_exists, not_and, Bool.not_eq_true] at h
    exact ⟨fun heq => ⟨h, (Json.text.inj heq).symm⟩, fun heq => congrArg _ heq.2.symm⟩

theorem ofPoints_toNat (s : String) : ofPoints (s.toList.map Char.toNat) = .text s := by
  rw [ofPoints_eq_text_iff, textOf_toNat]
  refine ⟨fun p hp => ?_, rfl⟩
  obtain ⟨c, -, rfl⟩ := List.mem_map.mp hp
  exact isHalf_toNat c

/-- **Code points that are those of characters.** -/
def IsText (points : List Nat) : Prop := ∀ p ∈ points, p.isValidChar

theorem isText_of_lt (hhalf : ∀ p ∈ points, isHalf p = false) (h : ∀ p ∈ points, p < 0x110000) :
    IsText points := by
  intro p hp
  have hnot := hhalf p hp
  have hlt := h p hp
  simp only [isHalf, Bool.and_eq_false_iff, decide_eq_false_iff_not] at hnot
  simp only [Nat.isValidChar]
  omega

/-- The code points of the text that code points make up. -/
theorem IsText.codePoints_textOf (h : IsText points) : codePoints (textOf points) = points := by
  have hback : ∀ p ∈ points, (Char.toNat ∘ Char.ofNat) p = id p := fun p hp => by
    rw [Function.comp_apply, toNat_ofNat, if_pos (h p hp)]
    rfl
  rw [codePoints, textOf, String.toList_ofList, List.map_map, List.map_congr_left hback,
    List.map_id]

theorem isText_codePoints (s : String) : IsText (codePoints s) := by
  intro p hp
  obtain ⟨c, -, rfl⟩ := List.mem_map.mp hp
  exact c.valid

theorem IsText.ofPoints_eq (h : IsText points) : ofPoints points = .text (textOf points) := by
  refine ofPoints_eq_text_iff.mpr ⟨fun p hp => ?_, rfl⟩
  have hvalid := h p hp
  simp only [Nat.isValidChar] at hvalid
  simp only [isHalf, Bool.and_eq_false_iff, decide_eq_false_iff_not]
  omega

/-- **Code points are those of a text** if and only if they are what the text is told by, whole. -/
theorem isText_iff :
    IsText points ↔ (ofPoints points).isWhole ∧ (ofPoints points).points? = some points := by
  constructor
  · intro h
    rw [h.ofPoints_eq]
    exact ⟨rfl, congrArg some h.codePoints_textOf⟩
  · rintro ⟨hwhole, hpoints⟩
    cases hv : ofPoints points with
    | text s =>
      rw [hv] at hpoints
      rw [← Option.some.inj hpoints]
      exact isText_codePoints s
    | torn ps =>
      rw [hv] at hwhole
      cases hwhole
    | _ => rw [hv] at hpoints; cases hpoints

/-! ## Trimming -/

theorem isBlankPoint_comp_toNat : isBlankPoint ∘ Char.toNat = isBlank := by
  funext c
  rw [Function.comp_apply, isBlankPoint, Char.ofNat_toNat]

/-- A text is trimmed as its code points are. -/
theorem trimPoints_toNat (cs : List Char) :
    trimPoints (cs.map Char.toNat) = (trimBy isBlank cs).map Char.toNat := by
  rw [trimPoints, trimBy_map, isBlankPoint_comp_toNat]

theorem trim_textOf (points : List Nat) : trim (textOf points) = textOf (trimPoints points) := by
  rw [trim, textOf, String.toList_ofList, trimBy_map]
  rfl

theorem trimPoints_trimPoints (points : List Nat) :
    trimPoints (trimPoints points) = trimPoints points := trimBy_trimBy _ _

/-! ## Parts -/

/-- A text has the parts that its code points have. -/
theorem pointParts_toNat (s : String) :
    pointParts (s.toList.map Char.toNat) =
      (commaParts s).map fun part => part.toList.map Char.toNat := by
  have hsplit := splitAt_map (f := Char.toNat) (fun _ _ => Char.toNat_inj.mp) ',' s.toList
  have htrim : trimPoints ∘ List.map Char.toNat = List.map Char.toNat ∘ trimBy isBlank :=
    funext trimPoints_toNat
  have hempty : (fun part : List Nat => !part.isEmpty) ∘ List.map Char.toNat =
      fun part => !part.isEmpty := by
    funext part
    cases part <;> rfl
  rw [pointParts, hsplit, List.map_map, htrim, ← List.map_map, List.filter_map, hempty, commaParts,
    partsOf, trimmedParts, List.map_map]
  simp only [Function.comp_def, String.toList_ofList]

end Json

end Gazetteer
