import Gazetteer.Text.Blank
import Gazetteer.Text.Casing
import Gazetteer.Text.Decimal
import Mathlib.Data.List.Basic
import Mathlib.Data.List.TakeWhile

/-!
# Trimming and capitals

A text is often trimmed twice, when it is checked and when it is stored, and codes are put in
capitals in between.  Letters of ASCII stay letters when they are capitalised, and neither letters
nor digits are blank, so that there is nothing left to trim.

* `Trims`, `trims_iff`: what trimming leaves;
* `trimBy_trimBy`, `trim_trim`, `trim_eq_self`: trimming a second time, and trimming what has no
  blanks;
* `upper_of_isAlpha`: letters in capitals; `not_isBlank_of_isDecimal`: digits are not blank.
-/

namespace Gazetteer.Text

/-! ## Trimming -/

theorem inSpans_disjoint {p q : List (Nat × Nat)} {c : Char}
    (h : ∀ s ∈ p, ∀ t ∈ q, s.2 < t.1 ∨ t.2 < s.1) (hc : inSpans p c) : inSpans q c = false := by
  obtain ⟨s, hs, hs₁, hs₂⟩ := inSpans_iff.mp hc
  rw [← Bool.not_eq_true, inSpans_iff]
  rintro ⟨t, ht, ht₁, ht₂⟩
  have := h s hs t ht
  omega

theorem head?_trimBy {p : α → Bool} {cs : List α} {c : α} (h : c ∈ (trimBy p cs).head?) :
    p c = false := by
  -- The last of what is left on the right is the first of what was left on the left.
  unfold trimBy at h
  rw [List.head?_reverse] at h
  have hne : (cs.dropWhile p).reverse.dropWhile p ≠ [] := by
    intro hnil
    rw [hnil] at h
    simp at h
  obtain ⟨front, hfront⟩ := List.dropWhile_suffix (l := (cs.dropWhile p).reverse) p
  have hlast : (cs.dropWhile p).reverse.getLast? = some c := by
    rw [← hfront, List.getLast?_append_of_ne_nil _ hne]
    exact h
  rw [List.getLast?_reverse] at hlast
  have hnot := List.head?_dropWhile_not p cs
  rw [hlast] at hnot
  exact hnot

theorem getLast?_trimBy {p : α → Bool} {cs : List α} {c : α} (h : c ∈ (trimBy p cs).getLast?) :
    p c = false := by
  unfold trimBy at h
  rw [List.getLast?_reverse] at h
  have hnot := List.head?_dropWhile_not p (cs.dropWhile p).reverse
  rw [Option.mem_def.mp h] at hnot
  exact hnot

/-- What is outside the class stays at the front. -/
theorem trimBy_cons_of_neg {p : α → Bool} {c : α} {cs : List α} (h : ¬p c) :
    ∃ ds, trimBy p (c :: cs) = c :: ds := by
  have hlast : (cs.reverse ++ [c]).dropWhile p = cs.reverse.dropWhile p ++ [c] := by
    rw [List.dropWhile_append]
    split
    · next hnil => rw [List.dropWhile_cons_of_neg h, List.isEmpty_iff.mp hnil, List.nil_append]
    · rfl
  refine ⟨(cs.reverse.dropWhile p).reverse, ?_⟩
  rw [trimBy, List.dropWhile_cons_of_neg h, List.reverse_cons, hlast, List.reverse_append]
  rfl

/-- **Trimming a second time changes nothing.** -/
theorem trimBy_trimBy (p : α → Bool) (cs : List α) : trimBy p (trimBy p cs) = trimBy p cs :=
  trimBy_eq_self (fun _ hc => head?_trimBy hc) (fun _ hc => getLast?_trimBy hc)

theorem trim_trim (s : String) : trim (trim s) = trim s := by
  unfold trim
  rw [String.toList_ofList, trimBy_trimBy]

/-- Of a list of the class only, nothing is left. -/
theorem trimBy_of_all {p : α → Bool} {cs : List α} (h : cs.all p) : trimBy p cs = [] := by
  rw [trimBy, List.dropWhile_eq_nil_iff.mpr (List.all_eq_true.mp h)]
  rfl

/-- **What is left of a list between elements of a class**, of which none is at its own ends. -/
structure Trims (p : α → Bool) (cs ds : List α) : Prop where
  split : ∃ before after, cs = before ++ ds ++ after ∧ (∀ c ∈ before, p c) ∧ ∀ c ∈ after, p c
  first : ∀ c ∈ ds.head?, p c = false
  last : ∀ c ∈ ds.getLast?, p c = false

theorem trims_trimBy (p : α → Bool) (cs : List α) : Trims p cs (trimBy p cs) where
  split := by
    refine ⟨cs.takeWhile p, ((cs.dropWhile p).reverse.takeWhile p).reverse, ?_,
      fun c hc => List.mem_takeWhile_imp hc,
      fun c hc => List.mem_takeWhile_imp (List.mem_reverse.mp hc)⟩
    rw [trimBy, List.append_assoc, ← List.reverse_append, List.takeWhile_append_dropWhile,
      List.reverse_reverse, List.takeWhile_append_dropWhile]
  first _ hc := head?_trimBy hc
  last _ hc := getLast?_trimBy hc

theorem Trims.eq_trimBy {p : α → Bool} {cs ds : List α} (h : Trims p cs ds) :
    ds = trimBy p cs := by
  obtain ⟨⟨before, after, rfl, hbefore, hafter⟩, hfirst, hlast⟩ := h
  rw [trimBy, List.append_assoc, List.dropWhile_append_of_pos hbefore]
  cases ds with
  | nil => rw [List.nil_append, List.dropWhile_eq_nil_iff.mpr hafter]; rfl
  | cons d ds =>
    have hd : ¬p d := by simp [hfirst d rfl]
    have hself := trimBy_eq_self hfirst hlast
    rw [trimBy, List.dropWhile_cons_of_neg hd] at hself
    rw [List.cons_append, List.dropWhile_cons_of_neg hd, ← List.cons_append, List.reverse_append,
      List.dropWhile_append_of_pos fun c hc => hafter c (List.mem_reverse.mp hc), hself]

/-- **Trimming leaves what is between the ends.** -/
theorem trims_iff {p : α → Bool} {cs ds : List α} : Trims p cs ds ↔ ds = trimBy p cs :=
  ⟨Trims.eq_trimBy, fun h => h ▸ trims_trimBy p cs⟩

/-- **A text without blanks is left as it is.** -/
theorem trim_eq_self {s : String} (h : ∀ c ∈ s.toList, isBlank c = false) : trim s = s := by
  unfold trim
  rw [trimBy_eq_self (fun c hc => h c (List.mem_of_mem_head? hc))
    (fun c hc => h c (List.mem_of_getLast? hc)), String.ofList_toList]

/-! ## Letters and digits -/

/-- What is true of all characters of ASCII is true of letters. -/
theorem of_isAlpha {P : Char → Prop}
    (hall : ∀ n : Fin 128, (Char.ofNat n).isAlpha → P (Char.ofNat n))
    {c : Char} (h : c.isAlpha) : P c := by
  have hlt : c.toNat < 128 := by
    have hcase : (c.isUpper || c.isLower) = true := h
    rcases (Bool.or_eq_true ..).mp hcase with hupper | hlower
    · have hrange : 'A'.val ≤ c.val ∧ c.val ≤ 'Z'.val := of_decide_eq_true hupper
      exact Nat.lt_of_le_of_lt (UInt32.le_iff_toNat_le.mp hrange.2) (by decide)
    · have hrange : ('a'.val ≤ c.val && c.val ≤ 'z'.val) = true := hlower
      have hle : c.val ≤ 'z'.val := of_decide_eq_true ((Bool.and_eq_true ..).mp hrange).2
      exact Nat.lt_of_le_of_lt (UInt32.le_iff_toNat_le.mp hle) (by decide)
  have hc : Char.ofNat c.toNat = c := Char.ofNat_toNat c
  rw [← hc] at h ⊢
  exact hall ⟨c.toNat, hlt⟩ h

/-- What is true of the ten digits is true of digits. -/
theorem of_isDigit {P : Char → Prop} (hall : ∀ n < 10, P (Char.ofNat (48 + n))) {c : Char}
    (h : c.isDigit) : P c := by
  simp only [Char.isDigit, Bool.and_eq_true, decide_eq_true_eq] at h
  have hlow : 48 ≤ c.toNat := UInt32.le_iff_toNat_le.mp h.1
  have hhigh : c.toNat ≤ 57 := UInt32.le_iff_toNat_le.mp h.2
  have hc := hall (c.toNat - 48) (by omega)
  rwa [Nat.add_sub_cancel' hlow, Char.ofNat_toNat] at hc

theorem isAlpha_of_isUpper {c : Char} (h : c.isUpper) : c.isAlpha :=
  (Bool.or_eq_true ..).mpr (Or.inl h)

theorem not_isBlank_of_isAlpha {c : Char} (h : c.isAlpha) : isBlank c = false :=
  of_isAlpha (P := fun c => isBlank c = false) (by decide) h

theorem upperChar_of_isAlpha {c : Char} (h : c.isAlpha) :
    ∃ d : Char, upperChar c = [d] ∧ d.isUpper :=
  of_isAlpha (P := fun c => ∃ d : Char, upperChar c = [d] ∧ d.isUpper)
    (fun n hn => ⟨(Char.ofNat n).toUpper, upperChar_of_ascii (by revert n; decide),
      by revert n; decide⟩) h

theorem not_isBlank_of_isDecimal {c : Char} (h : isDecimal c) : isBlank c = false :=
  inSpans_disjoint (by decide) h

/-- **Letters remain as many when they are capitalised.** -/
theorem upper_of_isAlpha {s : String} (h : ∀ c ∈ s.toList, c.isAlpha) :
    (upper s).toList.length = s.toList.length ∧ ∀ c ∈ (upper s).toList, c.isUpper := by
  unfold upper
  rw [String.toList_ofList]
  generalize s.toList = cs at h
  induction cs with
  | nil => simp
  | cons c cs ih =>
    obtain ⟨hlength, hupper⟩ := ih fun d hd => h d (List.mem_cons_of_mem c hd)
    obtain ⟨d, hd, hdu⟩ := upperChar_of_isAlpha (h c List.mem_cons_self)
    rw [List.flatMap_cons, hd]
    refine ⟨by simp [hlength], fun e he => ?_⟩
    rcases List.mem_cons.mp he with rfl | he
    · exact hdu
    · exact hupper e he

end Gazetteer.Text
