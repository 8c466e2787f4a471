import Gazetteer.Number.IntegerText
import Gazetteer.Proofs.Text.Separation
import Gazetteer.Proofs.Text.Trimming
import Mathlib.Data.List.TakeWhile

/-!
# Numbers in paths are read back

The number of a country is written in decimal digits, and a path that holds it is read with the
lenient rules for whole numbers.  A numeral of these digits has nothing that they would take away:
no blanks, no zeros at its front, no point and no underscores.  So it is read back, unless it has
too many digits.

* `natDigits_eq_cons`: the digits of a positive number;
* `digitsOnly_natDigits`, `readInteger_intText`: what was written is read;
* `isSpace_or_of_readInteger`: what a number in writing begins with.
-/

namespace Gazetteer.Number

open Text

theorem isDigit_of_mem_natDigits {n : Nat} {c : Char} (h : c ∈ natDigits n) : c.isDigit :=
  Nat.isDigit_of_mem_toDigits (by decide) (by decide) h

/-- What is not a digit is no part of a numeral. -/
theorem not_mem_natDigits {n : Nat} {c : Char} (h : c.isDigit = false) : c ∉ natDigits n := by
  intro hc
  rw [isDigit_of_mem_natDigits hc] at h
  cases h

theorem natDigits_ne_nil (n : Nat) : natDigits n ≠ [] := Nat.toDigits_ne_nil

/-- **Only the numeral of zero begins with a zero.** -/
theorem head?_natDigits {n : Nat} (h : (natDigits n).head? = some '0') : n = 0 := by
  induction n using Nat.strongRecOn with
  | _ n ih =>
    unfold natDigits at h
    by_cases hn : n < 10
    · rw [Nat.toDigits_of_lt_base hn] at h
      have hdigit : ∀ d : Fin 10, d.val.digitChar = '0' → d.val = 0 := by decide
      exact hdigit ⟨n, hn⟩ (Option.some.inj h)
    · rw [Nat.toDigits_of_base_le (by decide) (by omega)] at h
      obtain ⟨c, cs, hcs⟩ := List.exists_cons_of_ne_nil (natDigits_ne_nil (n / 10))
      have hfront : (natDigits (n / 10)).head? = some '0' := by
        rw [natDigits] at hcs
        rw [hcs] at h
        rw [natDigits, hcs]
        exact h
      have := ih (n / 10) (by omega) hfront
      omega

theorem natDigits_eq_cons {n : Nat} (h : n ≠ 0) :
    ∃ c cs, natDigits n = c :: cs ∧ c.isDigit ∧ c ≠ '0' := by
  obtain ⟨c, cs, hcs⟩ := List.exists_cons_of_ne_nil (natDigits_ne_nil n)
  refine ⟨c, cs, hcs, isDigit_of_mem_natDigits (hcs ▸ List.mem_cons_self), ?_⟩
  rintro rfl
  exact h (head?_natDigits (by rw [hcs, List.head?_cons]))

theorem digitsValue_natDigits (n : Nat) : digitsValue (natDigits n) = n := by
  have hread : Nat.ofDigitChars 10 (natDigits n) 0 = n := Nat.ofDigitChars_ten_toDigits
  rw [Nat.ofDigitChars_eq_foldl] at hread
  exact hread

/-! ## What the rules take away -/

theorem withoutLeadingZeros?_natDigits (n : Nat) :
    withoutLeadingZeros? (natDigits n) = some (natDigits n) := by
  by_cases h : n = 0
  · subst h
    rfl
  · obtain ⟨c, cs, hcs, hdigit, hzero⟩ := natDigits_eq_cons h
    rw [hcs]
    unfold withoutLeadingZeros?
    split
    · next heq => cases heq; exact absurd rfl hzero
    · next heq => cases heq; rw [if_pos (Or.inl hdigit)]
    · next heq => cases heq

theorem withoutZeroFraction_natDigits (n : Nat) :
    withoutZeroFraction (natDigits n) = natDigits n := by
  unfold withoutZeroFraction
  rw [cutAt_of_not_mem (not_mem_natDigits (by decide))]

theorem withoutUnderscores_natDigits (n : Nat) :
    withoutUnderscores (natDigits n) = natDigits n := by
  unfold withoutUnderscores
  rw [splitAt_of_not_mem (not_mem_natDigits (by decide))]
  simp [natDigits_ne_nil]

/-- **Digits are read back**, unless there are too many of them. -/
theorem digitsOnly_natDigits (n : Nat) : digitsOnly (natDigits n) =
    if greatestLength < (natDigits n).length then .error .tooLong else .ok n := by
  by_cases hn : n = 0
  · subst hn
    rfl
  · obtain ⟨c, cs, hcs, -, hzero⟩ := natDigits_eq_cons hn
    have hall : (natDigits n).takeWhile Char.isDigit = natDigits n :=
      List.takeWhile_eq_self_iff.mpr fun _ hc => isDigit_of_mem_natDigits hc
    have hone : natDigits n ≠ ['0'] := by
      rw [hcs]
      rintro heq
      exact hzero (List.cons.inj heq).1
    have hhead : ¬(natDigits n).head? = some '0' := fun h => hn (head?_natDigits h)
    have hrest : ((natDigits n).isEmpty ||
        decide ((natDigits n).length < (natDigits n).length)) = false := by
      simp [natDigits_ne_nil]
    unfold digitsOnly
    rw [hall]
    dsimp only
    rw [if_neg hone, if_neg hhead, hrest, digitsValue_natDigits]
    rfl

/-! ## Reading back -/

theorem unsigned_natDigits (n : Nat) :
    unsigned (natDigits n) = (digitsOnly (natDigits n)).map Int.ofNat := by
  unfold unsigned
  simp only [withoutLeadingZeros?_natDigits, Option.map_some, Function.comp_apply,
    withoutZeroFraction_natDigits, withoutUnderscores_natDigits]
  split
  · next heq => cases heq
  · next heq => exact absurd (Option.some.inj heq) head_natDigits_ne
  · next heq =>
    cases heq
    rfl

/-- A numeral without a sign is read without one. -/
theorem signed_natDigits (n : Nat) : signed (natDigits n) = unsigned (natDigits n) := by
  unfold signed
  split
  · next heq => exact absurd heq head_natDigits_ne
  · next heq =>
    have hmem : '+' ∈ natDigits n := heq ▸ List.mem_cons_self
    exact absurd hmem (not_mem_natDigits (by decide))
  · next heq => exact absurd heq head_natDigits_ne
  · next heq =>
    have hmem : '+' ∈ natDigits n := heq ▸ List.mem_cons_self
    exact absurd hmem (not_mem_natDigits (by decide))
  · rfl

theorem signed_neg_natDigits (n : Nat) :
    signed ('-' :: natDigits n) = (unsigned (natDigits n)).map (- ·) := by
  obtain ⟨c, cs, hcs⟩ := List.exists_cons_of_ne_nil (natDigits_ne_nil n)
  have hminus : c ≠ '-' := by
    rintro rfl
    exact head_natDigits_ne hcs
  unfold signed
  split
  · next heq => exact absurd (List.cons.inj heq).2 head_natDigits_ne
  · next heq => exact absurd (List.cons.inj heq).1 (by decide)
  · next heq =>
    obtain rfl := (List.cons.inj heq).2
    rw [withoutLeadingZeros?_natDigits]
    split
    · next heq => exact absurd (Option.some.inj heq) head_natDigits_ne
    · rfl
  · next heq => exact absurd (List.cons.inj heq).1 (by decide)
  · next hneg _ => exact absurd rfl (hneg _)

theorem isSpace_of_isDigit {c : Char} (h : c.isDigit) : isSpace c = false := by
  rw [isSpace, not_isBlank_of_isDecimal (isDecimal_of_isDigit h), Bool.false_and]

/-- **A number that was written is read**, unless it has too many digits. -/
theorem readInteger_intText (n : Int) : readInteger (intText n) =
    if greatestLength < (natDigits n.natAbs).length then .error .tooLong else .ok n := by
  have hspace : ∀ c ∈ (intText n).toList, isSpace c = false := by
    intro c hc
    cases n with
    | ofNat n =>
      rw [intText, natText, String.toList_ofList] at hc
      exact isSpace_of_isDigit (isDigit_of_mem_natDigits hc)
    | negSucc n =>
      rw [intText, String.toList_ofList] at hc
      rcases List.mem_cons.mp hc with rfl | hc
      · decide
      · exact isSpace_of_isDigit (isDigit_of_mem_natDigits hc)
  unfold readInteger
  rw [trimBy_eq_self (fun c hc => hspace c (List.mem_of_mem_head? hc))
    (fun c hc => hspace c (List.mem_of_getLast? hc))]
  cases n with
  | ofNat n =>
    have habs : (Int.ofNat n).natAbs = n := rfl
    rw [intText, natText, String.toList_ofList, signed_natDigits, unsigned_natDigits,
      digitsOnly_natDigits, habs]
    split <;> rfl
  | negSucc n =>
    rw [intText, String.toList_ofList, signed_neg_natDigits, unsigned_natDigits,
      digitsOnly_natDigits, Int.natAbs_negSucc]
    split <;> rfl

/-- The digits of a number of 64 bits are few enough. -/
theorem length_natDigits_le {n : Int} (h : Int.natAbs n ≤ 0x8000000000000000) :
    (natDigits n.natAbs).length ≤ greatestLength := by
  have hlength : (natDigits n.natAbs).length ≤ 19 :=
    (Nat.length_toDigits_le_iff (by decide) (by decide)).mpr
      (Nat.lt_of_le_of_lt h (by decide))
  exact Nat.le_trans hlength (by decide)

/-! ## What a number begins with -/

/-- **A text is read as a number only if it begins like one.** -/
theorem isSpace_or_of_readInteger {c : Char} {cs : List Char} {n : Int}
    (h : readInteger (String.ofList (c :: cs)) = .ok n) :
    isSpace c ∨ c.isDigit ∨ c = '-' ∨ c = '+' := by
  by_contra hnot
  obtain ⟨hspace, hdigit, hminus, hplus⟩ : ¬isSpace c ∧ ¬c.isDigit ∧ c ≠ '-' ∧ c ≠ '+' := by
    simpa only [not_or] using hnot
  obtain ⟨ds, hds⟩ : ∃ ds, trimBy isSpace (c :: cs) = c :: ds := trimBy_cons_of_neg hspace
  have hzero : c ≠ '0' := by
    rintro rfl
    exact hdigit (by decide)
  have hzeros : withoutLeadingZeros? (c :: ds) = none := by
    unfold withoutLeadingZeros?
    split
    · next heq => exact absurd (List.cons.inj heq).1 hzero
    · next heq =>
      cases heq
      rw [if_neg (by simp [hdigit, hminus])]
    · rfl
  have hunsigned : unsigned (c :: ds) = .error .unreadable := by
    unfold unsigned
    rw [hzeros]
    rfl
  have hsigned : signed (c :: ds) = unsigned (c :: ds) := by
    unfold signed
    split
    · next heq => exact absurd (List.cons.inj heq).1 hminus
    · next heq => exact absurd (List.cons.inj heq).1 hplus
    · next heq => exact absurd (List.cons.inj heq).1 hminus
    · next heq => exact absurd (List.cons.inj heq).1 hplus
    · rfl
  rw [readInteger, String.toList_ofList, hds, hsigned, hunsigned] at h
  cases h

end Gazetteer.Number
