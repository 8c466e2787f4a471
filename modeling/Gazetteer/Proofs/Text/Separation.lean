import Gazetteer.Number.Numeral
import Gazetteer.Text.Percent
import Gazetteer.Text.Split
import Mathlib.Logic.Function.Basic

/-!
# Texts that can be told apart

A text put together from parts can be taken apart again if no part holds the separator.

* `splitAt_joinWith`: the parts are found again;
* `append_cons_cases`, `append_cons_inj_of_last`: the first and the last separator;
* `mem_escape`: the characters of an escaped text;
* `escape_injective`, `natDigits_injective`, `intText_injective`: writing loses nothing.
-/

namespace Gazetteer.Text

theorem splitAt_of_not_mem {α : Type} [DecidableEq α] {sep : α} {cs : List α} (h : sep ∉ cs) :
    splitAt sep cs = [cs] := by
  induction cs with
  | nil => rfl
  | cons c cs ih =>
    rw [List.mem_cons, not_or] at h
    obtain ⟨part, parts, hp, hc⟩ := splitAt_cons_of_ne (Ne.symm h.1) cs
    rw [ih h.2] at hp
    cases hp
    exact hc

theorem cutAt_of_not_mem {α : Type} [DecidableEq α] {sep : α} {cs : List α} (h : sep ∉ cs) :
    cutAt sep cs = (cs, none) := by
  induction cs with
  | nil => rfl
  | cons c cs ih =>
    rw [List.mem_cons, not_or] at h
    rw [cutAt, if_neg (Ne.symm h.1), ih h.2]

/-- **Parts without the separator are found again.** -/
theorem splitAt_joinWith {α : Type} [DecidableEq α] {sep : α} {parts : List (List α)}
    (hne : parts ≠ []) (h : ∀ part ∈ parts, sep ∉ part) :
    splitAt sep (joinWith sep parts) = parts := by
  induction parts with
  | nil => exact absurd rfl hne
  | cons part parts ih =>
    have hpart : splitAt sep part = [part] := splitAt_of_not_mem (h part (by simp))
    cases parts with
    | nil => exact hpart
    | cons next parts =>
      unfold joinWith
      rw [splitAt_append, hpart, ih (by simp) fun p hp => h p (List.mem_cons_of_mem _ hp)]
      rfl

/-- **The first separator of the one text** is the first of the other as well, or stands in what
goes before it there. -/
theorem append_cons_cases {α : Type} {a b : α} {xs ys xs' ys' : List α} (ha : a ∉ xs)
    (h : xs ++ b :: ys = xs' ++ a :: ys') :
    (a = b ∧ xs = xs' ∧ ys = ys') ∨ ∃ more, xs' = xs ++ b :: more ∧ ys = more ++ a :: ys' := by
  rcases List.append_eq_append_iff.mp h with ⟨more, rfl, hmore⟩ | ⟨more, rfl, hmore⟩
  · cases more with
    | nil =>
      obtain ⟨rfl, rfl⟩ := List.cons.inj hmore
      exact .inl ⟨rfl, (List.append_nil _).symm, rfl⟩
    | cons c more =>
      obtain ⟨rfl, rfl⟩ := List.cons.inj hmore
      exact .inr ⟨more, rfl, rfl⟩
  · cases more with
    | nil =>
      obtain ⟨rfl, rfl⟩ := List.cons.inj hmore
      exact .inl ⟨rfl, List.append_nil _, rfl⟩
    | cons c more =>
      obtain ⟨rfl, -⟩ := List.cons.inj hmore
      exact absurd (by simp) ha

/-- What stands before and after the last separator. -/
theorem append_cons_inj_of_last {α : Type} {a : α} {xs ys xs' ys' : List α} (hys : a ∉ ys)
    (hys' : a ∉ ys') (h : xs ++ a :: ys = xs' ++ a :: ys') : xs = xs' ∧ ys = ys' := by
  have hreverse : ys.reverse ++ a :: xs.reverse = ys'.reverse ++ a :: xs'.reverse := by
    simpa using congrArg List.reverse h
  rcases append_cons_cases (by simpa using hys) hreverse with ⟨-, hy, hx⟩ | ⟨more, hmore, -⟩
  · exact ⟨List.reverse_inj.mp hx, List.reverse_inj.mp hy⟩
  · exact absurd (List.mem_reverse.mp (hmore ▸ by simp)) hys'

namespace Percent

/-- **The characters of an escaped text**: those of the class, `%` and capital digits. -/
theorem mem_escape {keep : Char → Bool} {cs : List Char} {c : Char} (h : c ∈ escape keep cs) :
    keep c ∨ c = '%' ∨ ∃ n < 16, c = capitalDigit n := by
  simp only [escape, escapeChar, List.mem_flatMap] at h
  obtain ⟨d, -, h⟩ := h
  split at h
  · next hd =>
    rw [List.mem_singleton] at h
    exact Or.inl (h ▸ hd)
  · rw [List.mem_flatMap] at h
    obtain ⟨n, hn, h⟩ := h
    have hlt : n < 256 := Utf8.lt_of_mem_encodeChar hn
    simp only [escapeOctet, List.mem_cons, List.not_mem_nil, or_false] at h
    rcases h with h | h | h
    · exact Or.inr (Or.inl h)
    · exact Or.inr (Or.inr ⟨n / 16, by omega, h⟩)
    · exact Or.inr (Or.inr ⟨n % 16, by omega, h⟩)

theorem escape_injective {keep : Char → Bool} (hk : keep '%' = false) :
    Function.Injective (escape keep) :=
  Function.LeftInverse.injective (unescape_escape hk)

end Percent

end Gazetteer.Text

namespace Gazetteer.Number

theorem natDigits_injective : Function.Injective natDigits :=
  Function.LeftInverse.injective fun _ => Nat.ofDigitChars_ten_toDigits

theorem natText_injective : Function.Injective natText :=
  fun _ _ h => natDigits_injective (String.ofList_injective h)

/-- A numeral without a sign has none in front. -/
theorem head_natDigits_ne {n : Nat} {cs : List Char} : natDigits n ≠ '-' :: cs := by
  intro h
  have hd : '-'.isDigit := Nat.isDigit_of_mem_toDigits (b := 10) (n := n) (by decide) (by decide)
    (by rw [← natDigits, h]; simp)
  exact absurd hd (by decide)

theorem intText_injective : Function.Injective intText := by
  intro a b h
  cases a with
  | ofNat m =>
    cases b with
    | ofNat n => rw [natText_injective h]
    | negSucc n => exact absurd (String.ofList_injective h) head_natDigits_ne
  | negSucc m =>
    cases b with
    | ofNat n => exact absurd (String.ofList_injective h).symm head_natDigits_ne
    | negSucc n =>
      have hd := natDigits_injective (List.cons.inj (String.ofList_injective h)).2
      rw [Nat.succ.inj hd]

end Gazetteer.Number
