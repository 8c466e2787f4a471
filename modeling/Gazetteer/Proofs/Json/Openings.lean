import Gazetteer.Json.Reader
import Gazetteer.Proofs.Text.Trimming

/-!
# Texts that are no value

A value begins with a bracket, a brace or a quote, with a digit or a minus sign, or with the letter
of one of the words.  A text that begins with anything else, gaps apart, is no value, and the fault
is found right there.

* `opens`: the characters with which a value may begin;
* `readWithin_of_not_opens`: a text that begins with none of them.
-/

namespace Gazetteer.Json

variable {c : Char} {limits : Limits} {s : String}

/-- A character with which a value may begin. -/
def opens (c : Char) : Bool := "\x7b[\"ntfNI-0123456789".toList.contains c

theorem not_isDigit_of_not_opens (h : opens c = false) : c.isDigit = false := by
  rw [← Bool.not_eq_true] at h ⊢
  exact fun hd => h (Text.of_isDigit (P := fun c => opens c) (by decide) hd)

/-- **A character with which no value may begin** is no value. -/
theorem startValue_of_not_opens (h : opens c = false) (cs : List Char) (offset : Nat)
    (outer : List Frame) :
    startValue limits offset outer (tokenAt c cs).1 = .error ⟨.expectingValue, offset⟩ := by
  have hne : ∀ d, opens d → c ≠ d := fun d hd hc => by rw [hc, hd] at h; cases h
  unfold tokenAt
  split
  · exact absurd rfl (hne _ rfl)
  · rfl
  · exact absurd rfl (hne _ rfl)
  · rfl
  · rfl
  · rfl
  · exact absurd rfl (hne _ rfl)
  · have hword : wordLiteral? (c :: cs) = none := by
      have hn := hne 'n' rfl
      have ht := hne 't' rfl
      have hf := hne 'f' rfl
      have hN := hne 'N' rfl
      have hI := hne 'I' rfl
      have hm := hne '-' rfl
      simp [wordLiteral?, words, Ne.symm hn, Ne.symm ht, Ne.symm hf, Ne.symm hN, Ne.symm hI,
        Ne.symm hm]
    have hnumber : numberLiteral? (c :: cs) = none := by
      have hwhole : wholeDigits (c :: cs) = [] := by
        unfold wholeDigits
        split
        · next heq => exact absurd (List.cons.inj heq).1 (hne _ rfl)
        · rw [List.takeWhile_cons_of_neg (by simp [not_isDigit_of_not_opens h])]
      simp [numberLiteral?, hne '-' rfl, hwhole]
    rw [hword, hnumber]
    rfl

/-- **A text that does not begin with a value is none.** -/
theorem readWithin_of_not_opens
    (h : ∀ c ∈ (s.toList.dropWhile isGap).head?, opens c = false) :
    ∃ offset, readWithin limits s = .error ⟨.expectingValue, offset⟩ := by
  have hgaps : ∀ (cs : List Char) (offset : Nat), ∃ offset',
      tokensFrom 0 offset cs = tokensFrom 0 offset' (cs.dropWhile isGap) := by
    intro cs
    induction cs with
    | nil => exact fun offset => ⟨offset, rfl⟩
    | cons c cs ih =>
      intro offset
      by_cases hc : isGap c
      · rw [tokensFrom, if_neg (by simp), if_pos hc, List.dropWhile_cons_of_pos hc]
        exact ih (offset + 1)
      · exact ⟨offset, by rw [List.dropWhile_cons_of_neg hc]⟩
  obtain ⟨offset, htokens⟩ := hgaps s.toList 0
  unfold readWithin
  rw [tokens, htokens]
  have hnot := List.head?_dropWhile_not isGap s.toList
  cases hcs : s.toList.dropWhile isGap with
  | nil => exact ⟨_, rfl⟩
  | cons c cs =>
    rw [hcs] at h hnot
    have hc : isGap c = false := hnot
    rw [tokensFrom, if_neg (by simp), hc, if_neg (by simp)]
    refine ⟨offset, ?_⟩
    simp only [run, step, startValue_of_not_opens (h c rfl)]

end Gazetteer.Json
