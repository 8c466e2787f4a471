/-!
# UTF-8

Characters as octets, and octets as characters.  Octets are natural numbers below 256.

* `encodeChar`, `encode`: one to four octets per character;
* `decode`: reads octets as far as they are UTF-8; a malformed sequence becomes one `U+FFFD` for
  each longest piece of it that could have begun a character.
-/

namespace Gazetteer.Text.Utf8

/-- The octets of a character. -/
def encodeChar (c : Char) : List Nat :=
  let n := c.toNat
  if n < 0x80 then [n]
  else if n < 0x800 then [0xC0 + n / 64, 0x80 + n % 64]
  else if n < 0x10000 then [0xE0 + n / 4096, 0x80 + n / 64 % 64, 0x80 + n % 64]
  else [0xF0 + n / 262144, 0x80 + n / 4096 % 64, 0x80 + n / 64 % 64, 0x80 + n % 64]

/-- The octets of a text. -/
def encode (cs : List Char) : List Nat := cs.flatMap encodeChar

/-- What stands for octets that are no character. -/
def replacement : Char := '\uFFFD'

/-- Whether `b` may be the second octet after the first octet `a` of a character. -/
def follows (a b : Nat) : Bool :=
  let least := if a = 0xE0 then 0xA0 else if a = 0xF0 then 0x90 else 0x80
  let greatest := if a = 0xED then 0x9F else if a = 0xF4 then 0x8F else 0xBF
  least ≤ b && b ≤ greatest

/-- Whether `b` may be a third or fourth octet. -/
def isTail (b : Nat) : Bool := 0x80 ≤ b && b ≤ 0xBF

/-- **Octets read as text.** -/
def decode : List Nat → List Char
  | [] => []
  | a :: rest =>
    if a < 0x80 then Char.ofNat a :: decode rest
    else if 0xC2 ≤ a ∧ a ≤ 0xF4 then
      match rest with
      | [] => [replacement]
      | b :: rest₂ =>
        if !follows a b then replacement :: decode (b :: rest₂)
        else if a < 0xE0 then Char.ofNat ((a - 0xC0) * 64 + (b - 0x80)) :: decode rest₂
        else match rest₂ with
          | [] => [replacement]
          | c :: rest₃ =>
            if !isTail c then replacement :: decode (c :: rest₃)
            else if a < 0xF0 then
              Char.ofNat ((a - 0xE0) * 4096 + (b - 0x80) * 64 + (c - 0x80)) :: decode rest₃
            else match rest₃ with
              | [] => [replacement]
              | d :: rest₄ =>
                if !isTail d then replacement :: decode (d :: rest₄)
                else Char.ofNat ((a - 0xF0) * 262144 + (b - 0x80) * 4096 + (c - 0x80) * 64
                  + (d - 0x80)) :: decode rest₄
    else replacement :: decode rest

/-- Octets are below 256. -/
theorem lt_of_mem_encodeChar {c : Char} {n : Nat} (h : n ∈ encodeChar c) : n < 256 := by
  have hc : c.toNat < 0xD800 ∨ 0xDFFF < c.toNat ∧ c.toNat < 0x110000 := c.valid
  unfold encodeChar at h
  simp only at h
  split at h
  · simp only [List.mem_singleton] at h
    omega
  · split at h
    · simp only [List.mem_cons, List.not_mem_nil, or_false] at h
      omega
    · split at h <;> simp only [List.mem_cons, List.not_mem_nil, or_false] at h <;> omega

/-- A character of ASCII is its only octet. -/
theorem encodeChar_of_ascii {c : Char} (h : c.toNat < 128) : encodeChar c = [c.toNat] := by
  simp [encodeChar, h]

/-- Reading an encoded character back. -/
theorem decode_encodeChar_append (c : Char) (rest : List Nat) :
    decode (encodeChar c ++ rest) = c :: decode rest := by
  have hv : c.toNat < 0xD800 ∨ 0xDFFF < c.toNat ∧ c.toNat < 0x110000 := c.valid
  have hc : Char.ofNat c.toNat = c := Char.ofNat_toNat c
  generalize hn : c.toNat = n at hv hc
  unfold encodeChar
  simp only [hn]
  split
  · rw [List.cons_append, List.nil_append, decode.eq_def]
    simp [*]
  · split
    · have h₁ : ¬ 192 + n / 64 < 128 := by omega
      have h₂ : 194 ≤ 192 + n / 64 ∧ 192 + n / 64 ≤ 244 := by omega
      have h₃ : 192 + n / 64 < 224 := by omega
      have h₄ : follows (192 + n / 64) (128 + n % 64) = true := by
        unfold follows
        simp only [Bool.and_eq_true, decide_eq_true_eq]
        constructor <;> repeat' split
        all_goals omega
      have h₅ : n / 64 * 64 + n % 64 = n := by omega
      rw [List.cons_append, decode.eq_def]
      simp [h₁, h₂, h₃, h₄, h₅, hc]
    · split
      · have h₁ : ¬ 224 + n / 4096 < 128 := by omega
        have h₂ : 194 ≤ 224 + n / 4096 ∧ 224 + n / 4096 ≤ 244 := by omega
        have h₃ : ¬ 224 + n / 4096 < 224 := by omega
        have h₄ : follows (224 + n / 4096) (128 + n / 64 % 64) = true := by
          unfold follows
          simp only [Bool.and_eq_true, decide_eq_true_eq]
          constructor <;> repeat' split
          all_goals omega
        have h₅ : isTail (128 + n % 64) = true := by
          simp only [isTail, Bool.and_eq_true, decide_eq_true_eq]; omega
        have h₆ : 224 + n / 4096 < 240 := by omega
        have h₇ : n / 4096 * 4096 + n / 64 % 64 * 64 + n % 64 = n := by omega
        rw [List.cons_append, decode.eq_def]
        simp [h₁, h₂, h₃, h₄, h₅, h₆, h₇, hc]
      · have h₁ : ¬ 240 + n / 262144 < 128 := by omega
        have h₂ : 194 ≤ 240 + n / 262144 ∧ 240 + n / 262144 ≤ 244 := by omega
        have h₃ : ¬ 240 + n / 262144 < 224 := by omega
        have h₄ : follows (240 + n / 262144) (128 + n / 4096 % 64) = true := by
          unfold follows
          simp only [Bool.and_eq_true, decide_eq_true_eq]
          constructor <;> repeat' split
          all_goals omega
        have h₅ : isTail (128 + n / 64 % 64) = true := by
          simp only [isTail, Bool.and_eq_true, decide_eq_true_eq]; omega
        have h₆ : isTail (128 + n % 64) = true := by
          simp only [isTail, Bool.and_eq_true, decide_eq_true_eq]; omega
        have h₇ : ¬ 240 + n / 262144 < 240 := by omega
        have h₈ : n / 262144 * 262144 + n / 4096 % 64 * 4096 + n / 64 % 64 * 64 + n % 64 = n := by
          omega
        rw [List.cons_append, decode.eq_def]
        simp [h₁, h₂, h₃, h₄, h₅, h₆, h₇, h₈, hc]

/-- **Every text is read back from its octets.** -/
theorem decode_encode (cs : List Char) : decode (encode cs) = cs := by
  induction cs with
  | nil => simp [encode, decode]
  | cons c cs ih =>
    rw [encode, List.flatMap_cons, decode_encodeChar_append]
    rw [← encode, ih]

end Gazetteer.Text.Utf8
