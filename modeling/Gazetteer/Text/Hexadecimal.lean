/-!
# Hexadecimal numerals

`hex` writes a number with the digits `0`–`f` and no leading zero; `hexPadded` fills up with zeros
to a given width.  `hexValue?` reads one digit, in either case.
-/

namespace Gazetteer.Text

/-- The digit for `n < 16`. -/
def hexDigit (n : Nat) : Char :=
  if n < 10 then Char.ofNat (48 + n) else Char.ofNat (87 + n)

/-- The value of a hexadecimal digit. -/
def hexValue? (c : Char) : Option Nat :=
  if '0' ≤ c ∧ c ≤ '9' then some (c.toNat - 48)
  else if 'a' ≤ c ∧ c ≤ 'f' then some (c.toNat - 87)
  else if 'A' ≤ c ∧ c ≤ 'F' then some (c.toNat - 55)
  else none

/-- The value of a row of hexadecimal digits, if it is one. -/
def hexValues? (cs : List Char) : Option Nat :=
  cs.foldlM (fun n c => (hexValue? c).map (16 * n + ·)) 0

/-- Exactly `width` digits, the lowest ones of `n`. -/
def hexPadded : (width n : Nat) → List Char
  | 0, _ => []
  | width + 1, n => hexPadded width (n / 16) ++ [hexDigit (n % 16)]

/-- The digits of `n`, none of them a leading zero unless `n` is zero. -/
def hex (n : Nat) : List Char := hexPadded (n.log2 / 4 + 1) n

theorem length_hexPadded (width n : Nat) : (hexPadded width n).length = width := by
  induction width generalizing n with
  | zero => rfl
  | succ width ih => simp [hexPadded, ih]

theorem hexValue?_hexDigit : ∀ n < 16, hexValue? (hexDigit n) = some n := by decide

/-- **The lowest digits of a number** are read back. -/
theorem hexValues?_hexPadded (width n : Nat) :
    hexValues? (hexPadded width n) = some (n % Nat.pow 16 width) := by
  induction width generalizing n with
  | zero => exact congrArg some (Nat.mod_one n).symm
  | succ width ih =>
    have hfront := ih (n / 16)
    have hdigit := hexValue?_hexDigit (n % 16) (Nat.mod_lt n (by decide))
    have hvalue : n % Nat.pow 16 (width + 1) = 16 * (n / 16 % Nat.pow 16 width) + n % 16 := by
      rw [Nat.pow_eq, Nat.pow_eq, Nat.pow_succ', Nat.mod_mul, Nat.add_comm]
    rw [hexValues?] at hfront ⊢
    rw [hexPadded, List.foldlM_append, hfront, hvalue]
    simp [hdigit]

end Gazetteer.Text
