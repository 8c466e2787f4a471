import Gazetteer.Json.Writer
import Gazetteer.Json.Token
import Gazetteer.Proofs.Json.Points
import Gazetteer.Proofs.Number.IntegerText

/-!
# Written scalars are tokens

A string literal, a whole number and each of the words is cut off as one token, which stands for
what was written.  A literal ends at its closing quote, whatever follows; a numeral ends where a
character follows that could not be part of it.

* `stringLiteral_flatMap`: a string literal is read back;
* `Delimits`, `numberLiteral?_intText`: a numeral is read back if a delimiter follows;
* `tokensFrom_append`: the first token of a text, and the others after it;
* `tokensFrom_literal`, `tokensFrom_intText`, `tokensFrom_null`, `tokensFrom_bool`: written scalars.
-/

namespace Gazetteer.Json

open Number Text

variable {c : Char} {cs rest : List Char}

/-! ## String literals -/

theorem stringLiteral_skip (read : List Nat) (count : Nat) (cs rest : List Char) :
    stringLiteral cs.length read count (cs ++ rest) =
      stringLiteral 0 read (count + cs.length) rest := by
  induction cs generalizing count with
  | nil => rfl
  | cons c cs ih =>
    rw [List.cons_append, List.length_cons, stringLiteral, if_pos (by omega), Nat.add_sub_cancel,
      ih]
    congr 1
    omega

theorem escaped?_of_escapeLetter? {letter : Char} (h : escapeLetter? c = some letter) :
    letter ≠ 'u' ∧ escaped? letter = some c := by
  unfold escapeLetter? at h
  split at h <;> cases h <;> exact ⟨by decide, rfl⟩

theorem escape_letter {letter : Char} (h : escapeLetter? c = some letter) (cs : List Char) :
    escape (letter :: cs) = .ok (c.toNat, 1) := by
  obtain ⟨hu, hc⟩ := escaped?_of_escapeLetter? h
  unfold escape
  split
  · next heq => cases heq
  · next heq =>
    cases heq
    exact absurd rfl hu
  · next heq =>
    cases heq
    rw [hc]

theorem escape_control {n : Nat} (h : n < 0x20) (next : Char) (cs : List Char) :
    escape ('u' :: hexPadded 4 n ++ next :: cs) = .ok (n, 5) := by
  obtain ⟨d₁, d₂, d₃, d₄, hdigits⟩ : ∃ d₁ d₂ d₃ d₄, hexPadded 4 n = [d₁, d₂, d₃, d₄] :=
    ⟨_, _, _, _, rfl⟩
  have hunit : ∀ next cs, codeUnit? ([d₁, d₂, d₃, d₄] ++ next :: cs) = some n := by
    intro next cs
    have hsmall : n < Nat.pow 16 4 := Nat.lt_trans h (by decide)
    rw [← Nat.mod_eq_of_lt hsmall, ← hexValues?_hexPadded, hdigits]
    rfl
  have hpair : ∀ low, isPair n low = false := by
    intro low
    have hlow : decide (0xD800 ≤ n) = false := decide_eq_false (by omega)
    simp [isPair, hlow]
  have hescape : unicodeEscape? (hexPadded 4 n ++ next :: cs) = some (n, 4) := by
    rw [hdigits, unicodeEscape?, hunit, Option.map_some, Option.some.injEq]
    split
    · split
      · rw [hpair, if_neg (by decide)]
      · rfl
    · rfl
  simp only [List.cons_append, escape, hescape]

/-- **A character of a literal is read back.** -/
theorem stringLiteral_literalChar (c : Char) (read : List Nat) (count : Nat) (next : Char)
    (cs : List Char) : stringLiteral 0 read count (literalChar c ++ next :: cs) =
      stringLiteral 0 (c.toNat :: read) (count + (literalChar c).length) (next :: cs) := by
  unfold literalChar
  cases hletter : escapeLetter? c with
  | some letter =>
    have hskip := stringLiteral_skip (c.toNat :: read) (count + 1) [letter] (next :: cs)
    simp only [List.cons_append, List.nil_append, List.length_cons, List.length_nil] at hskip ⊢
    simp only [stringLiteral, ne_eq, not_true_eq_false, if_false, if_true, escape_letter hletter,
      if_neg (show ¬ '\\' = '"' by decide)]
    exact hskip
  | none =>
    have hquote : c ≠ '"' := by
      rintro rfl
      cases hletter
    have hbackslash : c ≠ '\\' := by
      rintro rfl
      cases hletter
    by_cases hcontrol : c.toNat < 0x20
    · have hskip := stringLiteral_skip (c.toNat :: read) (count + 1) ('u' :: hexPadded 4 c.toNat)
        (next :: cs)
      have hescape := escape_control hcontrol next cs
      simp only [List.length_cons, length_hexPadded, List.cons_append] at hskip hescape
      simp only [if_pos hcontrol, List.cons_append, List.length_cons, length_hexPadded]
      rw [stringLiteral]
      simp only [ne_eq, not_true_eq_false, if_false, if_true, hescape,
        if_neg (show ¬ '\\' = '"' by decide)]
      rw [hskip]
    · simp [hcontrol, stringLiteral, hquote, hbackslash]

/-- **A string literal is read back**, to its closing quote. -/
theorem stringLiteral_flatMap (cs : List Char) (read : List Nat) (count : Nat) (rest : List Char) :
    stringLiteral 0 read count (cs.flatMap literalChar ++ '"' :: rest) =
      .ok (read.reverse ++ cs.map Char.toNat, count + (cs.flatMap literalChar).length + 1) := by
  induction cs generalizing read count with
  | nil => simp [stringLiteral]
  | cons c cs ih =>
    -- There is always a further character, be it the closing quote.
    obtain ⟨next, ds, hnext⟩ : ∃ next ds, cs.flatMap literalChar ++ '"' :: rest = next :: ds :=
      List.exists_cons_of_ne_nil (by simp)
    rw [List.flatMap_cons, List.append_assoc, hnext, stringLiteral_literalChar, ← hnext, ih]
    simp [Nat.add_assoc]

/-! ## Numerals -/

/-- **A delimiter follows**, or nothing at all. -/
def Delimits (rest : List Char) : Prop := ∀ c ∈ rest.head?, c = ',' ∨ c = ']' ∨ c = '\x7d'

theorem Delimits.not_isDigit (h : Delimits rest) : ∀ c ∈ rest.head?, c.isDigit = false := by
  intro c hc
  rcases h c hc with rfl | rfl | rfl <;> decide

theorem takeWhile_append_of_delimits (hcs : ∀ c ∈ cs, c.isDigit) (h : Delimits rest) :
    (cs ++ rest).takeWhile Char.isDigit = cs := by
  rw [List.takeWhile_append_of_pos hcs]
  cases rest with
  | nil => simp
  | cons c rest => simp [h.not_isDigit c rfl]

theorem wholeDigits_natDigits (n : Nat) (h : Delimits rest) :
    wholeDigits (natDigits n ++ rest) = natDigits n := by
  rcases eq_or_ne n 0 with rfl | hn
  · rfl
  · obtain ⟨c, cs, hcs, -, hzero⟩ := natDigits_eq_cons hn
    have hall : (natDigits n ++ rest).takeWhile Char.isDigit = natDigits n :=
      takeWhile_append_of_delimits (fun _ => isDigit_of_mem_natDigits) h
    rw [hcs] at hall ⊢
    unfold wholeDigits
    split
    · next heq =>
      cases heq
      exact absurd rfl hzero
    · exact hall

theorem fractionDigits_of_delimits (h : Delimits rest) : fractionDigits rest = [] := by
  unfold fractionDigits
  split
  · next cs =>
    rcases h '.' rfl with heq | heq | heq <;> cases heq
  · rfl

theorem exponentPart_of_delimits (h : Delimits rest) : exponentPart rest = none := by
  cases rest with
  | nil => rfl
  | cons c cs =>
    have hc : ¬(c = 'e' ∨ c = 'E') := by
      rcases h c rfl with rfl | rfl | rfl <;> decide
    unfold exponentPart
    exact if_neg hc

theorem numberLiteral?_natDigits (n : Nat) (h : Delimits rest) :
    numberLiteral? (natDigits n ++ rest) = some (.scalar (.int n), (natDigits n).length) := by
  have hne : (natDigits n).isEmpty = false := by simpa using natDigits_ne_nil n
  have hhead : ¬(natDigits n ++ rest).head? = some '-' := by
    rw [List.head?_append_of_ne_nil _ (natDigits_ne_nil n)]
    exact fun hminus => not_mem_natDigits (by decide) (List.mem_of_mem_head? hminus)
  unfold numberLiteral?
  simp only [if_neg hhead, List.drop_zero, Nat.zero_add, wholeDigits_natDigits n h, hne,
    Bool.false_eq_true, if_false, List.drop_left, fractionDigits_of_delimits h, List.isEmpty_nil,
    if_true, exponentPart_of_delimits h, Bool.not_true, digitsValue_natDigits, Nat.add_zero]

theorem numberLiteral?_neg_natDigits (n : Nat) (h : Delimits rest) :
    numberLiteral? ('-' :: (natDigits n ++ rest)) =
      some (.scalar (.int (-n)), 1 + (natDigits n).length) := by
  have hne : (natDigits n).isEmpty = false := by simpa using natDigits_ne_nil n
  have hdrop : ('-' :: (natDigits n ++ rest)).drop (1 + (natDigits n).length) = rest := by
    rw [Nat.add_comm, List.drop_succ_cons, List.drop_left]
  unfold numberLiteral?
  simp only [List.head?_cons, if_true, List.drop_one, List.tail_cons, wholeDigits_natDigits n h,
    hne, Bool.false_eq_true, if_false, hdrop, fractionDigits_of_delimits h, List.isEmpty_nil,
    List.drop_zero, exponentPart_of_delimits h, Bool.not_true, digitsValue_natDigits, Nat.add_zero]

/-- **A numeral is read back** if a delimiter follows. -/
theorem numberLiteral?_intText (n : Int) (h : Delimits rest) :
    numberLiteral? ((intText n).toList ++ rest) =
      some (.scalar (.int n), (intText n).toList.length) := by
  cases n with
  | ofNat n =>
    rw [intText, natText, String.toList_ofList]
    exact numberLiteral?_natDigits n h
  | negSucc n =>
    rw [intText, String.toList_ofList, List.length_cons, List.cons_append,
      numberLiteral?_neg_natDigits (n + 1) h, Nat.add_comm 1, Int.negSucc_eq]
    rfl

/-! ## Tokens -/

theorem tokensFrom_skip (offset : Nat) (cs rest : List Char) :
    tokensFrom cs.length offset (cs ++ rest) = tokensFrom 0 (offset + cs.length) rest := by
  induction cs generalizing offset with
  | nil => rfl
  | cons c cs ih =>
    rw [List.cons_append, List.length_cons, tokensFrom, if_pos (by omega), Nat.add_sub_cancel, ih]
    congr 1
    omega

/-- **The first token of a text**, and the others after it. -/
theorem tokensFrom_append {token : Token} (hgap : isGap c = false)
    (h : tokenAt c (cs ++ rest) = (token, cs.length + 1)) (offset : Nat) :
    tokensFrom 0 offset (c :: cs ++ rest) =
      (offset, token) :: tokensFrom 0 (offset + (c :: cs).length) rest := by
  rw [List.cons_append, tokensFrom, if_neg (by simp), hgap, if_neg (by simp), h]
  simp only [Nat.add_sub_cancel]
  rw [tokensFrom_skip, List.length_cons]
  congr 2
  omega

/-- **A string literal is one token.** -/
theorem tokensFrom_literal (s : String) (offset : Nat) (rest : List Char) :
    tokensFrom 0 offset (literal s ++ rest) =
      (offset, .string (s.toList.map Char.toNat)) ::
        tokensFrom 0 (offset + (literal s).length) rest := by
  have hliteral : literal s = '"' :: (s.toList.flatMap literalChar ++ ['"']) := rfl
  rw [hliteral]
  refine tokensFrom_append (by decide) ?_ offset
  have hread := stringLiteral_flatMap s.toList [] 1 rest
  rw [List.append_assoc, List.singleton_append, tokenAt, hread]
  simp only [List.reverse_nil, List.nil_append, List.length_append, List.length_singleton,
    Prod.mk.injEq, true_and]
  omega

/-- No word begins with a digit, -/
theorem wordLiteral?_of_isDigit (hc : c.isDigit) (cs : List Char) :
    wordLiteral? (c :: cs) = none := by
  have hne : ∀ d ∈ ['n', 't', 'f', 'N', 'I', '-'], d ≠ c := by
    have hnone : ['n', 't', 'f', 'N', 'I', '-'].all (!·.isDigit) := by decide
    rintro d hd rfl
    have hd := List.all_eq_true.mp hnone d hd
    simp [hc] at hd
  simp only [List.forall_mem_cons, List.not_mem_nil, false_implies, implies_true] at hne
  simp [wordLiteral?, words, hne]

/-- nor with a minus sign and a digit. -/
theorem wordLiteral?_of_minus (hc : c.isDigit) (cs : List Char) :
    wordLiteral? ('-' :: c :: cs) = none := by
  have hne : 'I' ≠ c := by
    rintro rfl
    exact absurd hc (by decide)
  simp [wordLiteral?, words, hne]

theorem tokenAt_of_wordLiteral? (hc : c.isDigit ∨ c = '-') (hword : wordLiteral? (c :: cs) = none) :
    tokenAt c cs = (numberLiteral? (c :: cs)).getD (.stray, 1) := by
  unfold tokenAt
  split
  case h_8 => rw [hword]
  all_goals exact absurd hc (by decide)

/-- **A numeral is one token** if a delimiter follows. -/
theorem tokensFrom_intText (n : Int) (h : Delimits rest) (offset : Nat) :
    tokensFrom 0 offset ((intText n).toList ++ rest) =
      (offset, .scalar (.int n)) :: tokensFrom 0 (offset + (intText n).toList.length) rest := by
  have hnumber := numberLiteral?_intText n h
  obtain ⟨c, cs, hcs, hc, hword⟩ : ∃ c cs, (intText n).toList = c :: cs ∧ (c.isDigit ∨ c = '-') ∧
      wordLiteral? (c :: (cs ++ rest)) = none := by
    cases n with
    | ofNat n =>
      obtain ⟨c, cs, hcs⟩ := List.exists_cons_of_ne_nil (natDigits_ne_nil n)
      have hc : c.isDigit := isDigit_of_mem_natDigits (hcs ▸ List.mem_cons_self)
      exact ⟨c, cs, by rw [intText, natText, String.toList_ofList, hcs], Or.inl hc,
        wordLiteral?_of_isDigit hc _⟩
    | negSucc n =>
      obtain ⟨c, cs, hcs⟩ := List.exists_cons_of_ne_nil (natDigits_ne_nil (n + 1))
      have hc : c.isDigit := isDigit_of_mem_natDigits (hcs ▸ List.mem_cons_self)
      exact ⟨'-', c :: cs, by rw [intText, String.toList_ofList, hcs], Or.inr rfl,
        wordLiteral?_of_minus hc _⟩
  rw [hcs] at hnumber ⊢
  refine tokensFrom_append ?_ ?_ offset
  · rcases hc with hc | rfl
    · cases hgap : isGap c with
      | false => rfl
      | true =>
        simp only [isGap, Bool.or_eq_true, decide_eq_true_eq] at hgap
        rcases hgap with ((rfl | rfl) | rfl) | rfl <;> exact absurd hc (by decide)
    · decide
  · rw [tokenAt_of_wordLiteral? hc hword, ← List.cons_append, hnumber]
    rfl

theorem tokensFrom_null (offset : Nat) (rest : List Char) :
    tokensFrom 0 offset ("null".toList ++ rest) =
      (offset, .scalar .null) :: tokensFrom 0 (offset + "null".toList.length) rest := by
  have hword : "null".toList = ['n', 'u', 'l', 'l'] := rfl
  have hlength : "null".length = 4 := rfl
  rw [hword]
  exact tokensFrom_append (by decide) (by simp [tokenAt, wordLiteral?, words, hlength]) offset

theorem tokensFrom_bool (b : Bool) (offset : Nat) (rest : List Char) :
    tokensFrom 0 offset ((if b then "true" else "false").toList ++ rest) =
      (offset, .scalar (.bool b)) ::
        tokensFrom 0 (offset + (if b then "true" else "false").toList.length) rest := by
  have htrue : "true".toList = ['t', 'r', 'u', 'e'] := rfl
  have hfalse : "false".toList = ['f', 'a', 'l', 's', 'e'] := rfl
  have htrue' : "true".length = 4 := rfl
  have hfalse' : "false".length = 5 := rfl
  cases b
  · rw [if_neg (by decide), hfalse]
    exact tokensFrom_append (by decide) (by simp [tokenAt, wordLiteral?, words, hfalse']) offset
  · rw [if_pos rfl, htrue]
    exact tokensFrom_append (by decide) (by simp [tokenAt, wordLiteral?, words, htrue']) offset

end Gazetteer.Json
