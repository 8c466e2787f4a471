import Gazetteer.Proofs.Number.Nearest
import Gazetteer.Validation.Rule

/-!
# Whole numbers given otherwise

A whole number may be given as a truth value, as a number with a point but without a fraction, and
as a text.  The numbers with a point have to be within the bounds of 64 bits; the others may be of
any size.

* `toInt?_eq_some_iff`: the doubles that are whole numbers;
* `ComesTo`, `integer_eq_ok_iff`: the values that are accepted as whole numbers.
-/

namespace Gazetteer

namespace Number.Binary64

/-- **A double is read as the whole number that it is**, if it is one. -/
theorem toInt?_eq_some_iff {x : Binary64} {n : ℤ} :
    x.toInt? = some n ↔ x.isFinite ∧ x.toRat = n := by
  cases x with
  | finite negative m e =>
    have hpos : (0 : ℚ) < (2 ^ (-e).toNat : ℕ) := by positivity
    have hdvd : m % 2 ^ (-e).toNat = 0 ↔ 2 ^ (-e).toNat ∣ m * 2 ^ e.toNat := by
      rcases le_total 0 e with he | he
      · simp [show (-e).toNat = 0 by omega, Nat.mod_one]
      · simp [show e.toNat = 0 by omega, Nat.dvd_iff_mod_eq_zero]
    have hvalue : (finite negative m e).toRat =
        if negative then -((m * 2 ^ e.toNat : ℕ) / (2 ^ (-e).toNat : ℕ) : ℚ)
        else ((m * 2 ^ e.toNat : ℕ) / (2 ^ (-e).toNat : ℕ) : ℚ) := by
      simp only [toRat, Nat.pow_eq, Rat.mkRat_eq_div, Int.cast_natCast]
    simp only [toInt?, isFinite, Nat.pow_eq, hdvd, true_and, hvalue]
    generalize m * 2 ^ e.toNat = a
    generalize 2 ^ (-e).toNat = d at hpos
    by_cases h : d ∣ a
    · obtain ⟨k, rfl⟩ := h
      have hd : 0 < d := by exact_mod_cast hpos
      have hquotient : ((d * k : ℕ) / d : ℚ) = k := by
        push_cast
        rw [mul_div_cancel_left₀ _ hpos.ne']
      rw [if_pos (Nat.dvd_mul_right d k), Nat.mul_div_cancel_left k hd, hquotient]
      cases negative
      · simp only [Bool.false_eq_true, if_false, Option.some.injEq]
        exact_mod_cast Iff.rfl
      · simp only [if_true, Option.some.injEq]
        exact_mod_cast Iff.rfl
    · -- A whole quotient would make the divisor divide.
      rw [if_neg h]
      refine iff_of_false nofun fun heq => h ?_
      have habs : (a / d : ℚ) = n.natAbs := by
        have hnonneg : (0 : ℚ) ≤ a / d := div_nonneg (Nat.cast_nonneg a) (Nat.cast_nonneg d)
        rw [Nat.cast_natAbs, Int.cast_abs, ← heq]
        cases negative <;> simp [abs_of_nonneg hnonneg]
      rw [div_eq_iff hpos.ne'] at habs
      exact Dvd.intro_left n.natAbs (by exact_mod_cast habs.symm)
  | infinite | notANumber => exact iff_of_false nofun fun h => nomatch h.1

end Number.Binary64

namespace Validation

open Number

/-- **The whole number that a value comes to.** -/
inductive ComesTo : Json → ℤ → Prop
  | int (n : ℤ) : ComesTo (.int n) n
  | bool (b : Bool) : ComesTo (.bool b) (if b then 1 else 0)
  /-- A number with a point, if nothing follows the point but zeros. -/
  | real {x : Binary64} {n : ℤ} (hx : x.isFinite) (hn : x.toRat = n) (h : n.natAbs < 2 ^ 63) :
      ComesTo (.real x) n
  | text {s : String} {n : ℤ} (h : readInteger s = .ok n) : ComesTo (.text s) n

theorem integerOfReal_eq_ok_iff {x : Binary64} {n : ℤ} :
    integerOfReal x = .ok n ↔ x.isFinite ∧ x.toRat = n ∧ n.natAbs < 2 ^ 63 := by
  have hbound : n.natAbs < 2 ^ 63 ↔ -realBound < n ∧ n < realBound := by
    unfold realBound
    omega
  rw [hbound, ← and_assoc, ← Binary64.toInt?_eq_some_iff, integerOfReal]
  cases hx : x.isFinite with
  | false =>
    refine iff_of_false nofun fun h => ?_
    rw [Binary64.toInt?_eq_some_iff, hx] at h
    exact nomatch h.1.1
  | true =>
    cases hi : x.toInt? with
    | none => exact iff_of_false nofun fun h => nomatch h.1
    | some k =>
      by_cases hk : -realBound < k ∧ k < realBound
      · simp only [Bool.not_true, Bool.false_eq_true, if_false, if_pos hk, Except.ok.injEq,
          Option.some.injEq]
        exact ⟨fun h => ⟨h, h ▸ hk⟩, And.left⟩
      · simp only [Bool.not_true, Bool.false_eq_true, if_false, if_neg hk]
        refine iff_of_false nofun fun h => hk ?_
        rw [Option.some.inj h.1]
        exact h.2

/-- **A value is accepted as a whole number if and only if it comes to one.** -/
theorem integer_eq_ok_iff {v : Json} {n : ℤ} : integer v = .ok n ↔ ComesTo v n := by
  constructor
  · intro h
    cases v with
    | int k =>
      cases h
      exact .int _
    | bool b =>
      cases h
      exact .bool b
    | text s =>
      cases hk : readInteger s with
      | ok k =>
        simp only [integer, hk, Checked.ok.injEq] at h
        exact .text (h ▸ hk)
      | error fault => cases fault <;> simp [integer, hk, Checked.refuse_ne_ok] at h
    | real x =>
      cases hk : integerOfReal x with
      | ok k =>
        simp only [integer, hk, Checked.ok.injEq] at h
        obtain ⟨hx, hn, hbound⟩ := integerOfReal_eq_ok_iff.mp (h ▸ hk)
        exact .real hx hn hbound
      | error cause => simp [integer, hk, Checked.refuse_ne_ok] at h
    | _ => exact absurd h Checked.refuse_ne_ok
  · intro h
    cases h with
    | int => rfl
    | bool => rfl
    | real hx hn hbound => simp only [integer, integerOfReal_eq_ok_iff.mpr ⟨hx, hn, hbound⟩]
    | text h => simp only [integer, h]

end Validation

end Gazetteer
