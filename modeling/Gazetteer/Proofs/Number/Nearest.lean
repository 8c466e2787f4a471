import Gazetteer.Number.Binary64
import Mathlib.Algebra.Order.Field.Power
import Mathlib.Algebra.Order.Ring.Rat
import Mathlib.Data.Nat.Log
import Mathlib.Tactic.FieldSimp
import Mathlib.Tactic.Linarith
import Mathlib.Tactic.Ring

/-!
# Rounding keeps the order

Rounding a quotient depends on its value only and never turns two quotients around.  The double
nearest to a number is that number rounded to a multiple of a power of two, which grows with the
number; numbers with different powers are separated by a power of two that both roundings respect.

* `roundDiv_mono`, `roundRat_mono`: rounding to a whole number keeps the order;
* `leadingExponent_spec`: the exponent of the leading bit;
* `rounded`, `rounded_mono`, `rounded_rounded`: the nearest multiple of the last place;
* `ofQuotient_cases`: the double for a number is the rounded one, or infinite;
* `nearest_eq_rounded`, `nearest_mono`: so the nearest double keeps the order of numbers in range;
* `nearest_neg`, `nearest_intCast`: it is odd, and it fixes the whole numbers up to `2 ^ 53`;
* `ofQuotient_of_log2_lt`: the quotients that are in the range of doubles for certain.
-/

namespace Gazetteer.Number

/-! ## Rounding to a whole number -/

/-- **Rounding keeps the order of quotients.** -/
theorem roundDiv_mono {a b c d : Nat} (hb : 0 < b) (hd : 0 < d) (h : a * d ≤ c * b) :
    roundDiv a b ≤ roundDiv c d := by
  have ha : a = b * (a / b) + a % b := (Nat.div_add_mod a b).symm
  have hc : c = d * (c / d) + c % d := (Nat.div_add_mod c d).symm
  have hra : a % b < b := Nat.mod_lt a hb
  have hle : a / b ≤ c / d := by
    rw [Nat.le_div_iff_mul_le hd]
    refine Nat.le_of_mul_le_mul_right ?_ hb
    calc a / b * d * b = b * (a / b) * d := by ring
      _ ≤ a * d := Nat.mul_le_mul_right d (by omega)
      _ ≤ c * b := h
  rcases Nat.lt_or_eq_of_le hle with hlt | heq
  · have h₁ := roundDiv_eq_or a b
    have h₂ := roundDiv_eq_or c d
    omega
  · -- The whole parts are the same, so the remainders compare as the quotients do.
    have hr : a % b * d ≤ c % d * b := by
      rw [ha, hc, heq] at h
      have hsplit : (b * (c / d) + a % b) * d = c / d * (b * d) + a % b * d := by ring
      have hsplit' : (d * (c / d) + c % d) * b = c / d * (b * d) + c % d * b := by ring
      simp only [← heq] at h hsplit hsplit'
      omega
    have hlow : 2 * (c % d) < d → 2 * (a % b) < b := fun hl => by
      refine Nat.lt_of_mul_lt_mul_right (a := d) ?_
      calc 2 * (a % b) * d = 2 * (a % b * d) := by ring
        _ ≤ 2 * (c % d * b) := by omega
        _ = 2 * (c % d) * b := by ring
        _ < d * b := Nat.mul_lt_mul_of_pos_right hl hb
        _ = b * d := by ring
    have hmid : 2 * (c % d) ≤ d → 2 * (a % b) ≤ b := fun hl => by
      refine Nat.le_of_mul_le_mul_right (c := d) ?_ hd
      calc 2 * (a % b) * d = 2 * (a % b * d) := by ring
        _ ≤ 2 * (c % d * b) := by omega
        _ = 2 * (c % d) * b := by ring
        _ ≤ d * b := Nat.mul_le_mul_right b hl
        _ = b * d := by ring
    unfold roundDiv
    simp only [heq]
    split_ifs <;> omega

/-- **Rounding depends on the quotient only.** -/
theorem roundDiv_congr {a b c d : Nat} (hb : 0 < b) (hd : 0 < d) (h : a * d = c * b) :
    roundDiv a b = roundDiv c d :=
  le_antisymm (roundDiv_mono hb hd h.le) (roundDiv_mono hd hb h.ge)

theorem roundRat_of_nonneg {x : ℚ} (hx : 0 ≤ x) : roundRat x = roundDiv x.num.natAbs x.den := by
  unfold roundRat
  rw [if_neg (not_lt.mpr hx)]

theorem roundRat_div (a : Nat) {b : Nat} (hb : 0 < b) : roundRat (a / b : ℚ) = roundDiv a b := by
  have hx : (0 : ℚ) ≤ a / b := div_nonneg (Nat.cast_nonneg a) (Nat.cast_nonneg b)
  have hnum : (((a / b : ℚ).num.natAbs : ℤ) : ℚ) = (a / b : ℚ).num := by
    rw [Int.natAbs_of_nonneg (Rat.num_nonneg.mpr hx)]
  rw [roundRat_of_nonneg hx]
  refine congrArg _ (roundDiv_congr (Rat.den_pos _) hb ?_)
  have hden : ((a / b : ℚ).den : ℚ) ≠ 0 := by exact_mod_cast (Rat.den_pos _).ne'
  have hb' : (b : ℚ) ≠ 0 := by exact_mod_cast hb.ne'
  have hq : ((a / b : ℚ).num : ℚ) / (a / b : ℚ).den = a / b := Rat.num_div_den _
  rw [div_eq_div_iff hden hb', ← hnum] at hq
  exact_mod_cast hq

theorem roundRat_natCast (n : Nat) : roundRat (n : ℚ) = n := by
  have h := roundRat_div n one_pos
  rw [← Nat.mul_one n, roundDiv_mul n one_pos] at h
  simpa using h

@[simp] theorem roundRat_zero : roundRat 0 = 0 := roundRat_natCast 0

@[simp] theorem roundRat_neg (x : ℚ) : roundRat (-x) = -roundRat x := by
  rcases lt_trichotomy x 0 with hx | rfl | hx
  · have hn : ¬-x < 0 := by linarith
    simp [roundRat, hx, hn]
  · simp
  · have hn : -x < 0 := by linarith
    have hp : ¬x < 0 := by linarith
    simp [roundRat, hn, hp]

theorem roundRat_nonneg {x : ℚ} (hx : 0 ≤ x) : 0 ≤ roundRat x := by
  rw [roundRat_of_nonneg hx]
  exact Int.natCast_nonneg _

theorem roundRat_le_of_nonneg {x y : ℚ} (hx : 0 ≤ x) (h : x ≤ y) : roundRat x ≤ roundRat y := by
  have hy : 0 ≤ y := hx.trans h
  rw [roundRat_of_nonneg hx, roundRat_of_nonneg hy]
  refine Int.ofNat_le.mpr (roundDiv_mono x.den_pos y.den_pos ?_)
  have hcross := (Rat.le_iff x y).mp h
  have hxn := Int.natAbs_of_nonneg (Rat.num_nonneg.mpr hx)
  have hyn := Int.natAbs_of_nonneg (Rat.num_nonneg.mpr hy)
  rw [← hxn, ← hyn] at hcross
  exact_mod_cast hcross

/-- **Rounding to a whole number keeps the order.** -/
theorem roundRat_mono {x y : ℚ} (h : x ≤ y) : roundRat x ≤ roundRat y := by
  rcases le_or_gt 0 x with hx | hx
  · exact roundRat_le_of_nonneg hx h
  · have hneg := roundRat_neg x
    rcases le_or_gt 0 y with hy | hy
    · have h₁ := roundRat_nonneg (neg_nonneg.mpr hx.le)
      have h₂ := roundRat_nonneg hy
      omega
    · have h₁ := roundRat_le_of_nonneg (neg_nonneg.mpr hy.le) (neg_le_neg h)
      rw [roundRat_neg, roundRat_neg] at h₁
      omega

/-! ## Powers of two -/

/-- A power of two as a quotient of natural numbers. -/
theorem two_zpow (e : ℤ) : (2 : ℚ) ^ e = (2 ^ e.toNat : ℕ) / (2 ^ (-e).toNat : ℕ) := by
  rcases le_total 0 e with he | he
  · obtain ⟨n, rfl⟩ := Int.eq_ofNat_of_zero_le he
    have h₀ : (-(n : ℤ)).toNat = 0 := by omega
    simp [h₀]
  · obtain ⟨n, hn⟩ := Int.eq_ofNat_of_zero_le (neg_nonneg.mpr he)
    obtain rfl : e = -(n : ℤ) := by omega
    have h₀ : (-(n : ℤ)).toNat = 0 := by omega
    simp [h₀]

theorem two_zpow_pos (e : ℤ) : (0 : ℚ) < 2 ^ e := by positivity

theorem two_zpow_le {e f : ℤ} (h : e ≤ f) : (2 : ℚ) ^ e ≤ 2 ^ f :=
  zpow_le_zpow_right₀ one_le_two h

theorem le_of_two_zpow_lt {e f : ℤ} (h : (2 : ℚ) ^ e < 2 ^ f) : e < f :=
  (zpow_lt_zpow_iff_right₀ one_lt_two).mp h

namespace Binary64

theorem toRat_finite (negative : Bool) (m : Nat) (e : Int) :
    (finite negative m e).toRat = (if negative then -1 else 1) * (m * 2 ^ e) := by
  have hpow : (mkRat (m * Nat.pow 2 e.toNat : Nat) (Nat.pow 2 (-e).toNat) : ℚ) = m * 2 ^ e := by
    rw [Rat.mkRat_eq_div, two_zpow]
    push_cast [Nat.pow_eq]
    ring
  unfold toRat
  simp only [hpow]
  cases negative <;> simp

theorem toRat_infinite (negative : Bool) : (infinite negative).toRat = 0 := rfl

/-! ## The exponents of a number -/

theorem lt_iff_lt_two_zpow {a b : Nat} (hb : 0 < b) (e : ℤ) :
    a * 2 ^ (-e).toNat < b * 2 ^ e.toNat ↔ (a / b : ℚ) < 2 ^ e := by
  have hb' : (0 : ℚ) < b := by exact_mod_cast hb
  rw [two_zpow, div_lt_div_iff₀ hb' (by positivity)]
  constructor
  · intro h
    have h' : ((a * 2 ^ (-e).toNat : ℕ) : ℚ) < (b * 2 ^ e.toNat : ℕ) := by exact_mod_cast h
    push_cast at h' ⊢
    linarith
  · intro h
    have h' : ((a * 2 ^ (-e).toNat : ℕ) : ℚ) < (b * 2 ^ e.toNat : ℕ) := by
      push_cast at h ⊢
      linarith
    exact_mod_cast h'

/-- **A quotient lies between two powers of two.** -/
theorem leadingExponent_spec {a b : Nat} (ha : 0 < a) (hb : 0 < b) :
    (2 : ℚ) ^ leadingExponent a b ≤ a / b ∧ (a / b : ℚ) < 2 ^ (leadingExponent a b + 1) := by
  have ha₀ : (2 : ℚ) ^ (a.log2 : ℤ) ≤ a := by
    rw [zpow_natCast]
    exact_mod_cast Nat.log2_self_le ha.ne'
  have ha₁ : (a : ℚ) < 2 ^ ((a.log2 : ℤ) + 1) := by
    have h : a < 2 ^ (a.log2 + 1) := Nat.lt_log2_self
    exact_mod_cast h
  have hb₀ : (2 : ℚ) ^ (b.log2 : ℤ) ≤ b := by
    rw [zpow_natCast]
    exact_mod_cast Nat.log2_self_le hb.ne'
  have hb₁ : (b : ℚ) < 2 ^ ((b.log2 : ℤ) + 1) := by
    have h : b < 2 ^ (b.log2 + 1) := Nat.lt_log2_self
    exact_mod_cast h
  have hb' : (0 : ℚ) < b := by exact_mod_cast hb
  have hlow : (2 : ℚ) ^ ((a.log2 : ℤ) - b.log2 - 1) ≤ a / b := by
    rw [le_div_iff₀ hb']
    calc (2 : ℚ) ^ ((a.log2 : ℤ) - b.log2 - 1) * b
        ≤ 2 ^ ((a.log2 : ℤ) - b.log2 - 1) * 2 ^ ((b.log2 : ℤ) + 1) :=
          mul_le_mul_of_nonneg_left hb₁.le (two_zpow_pos _).le
      _ = 2 ^ (a.log2 : ℤ) := by rw [← zpow_add₀ two_ne_zero]; congr 1; ring
      _ ≤ a := ha₀
  have hhigh : (a / b : ℚ) < 2 ^ ((a.log2 : ℤ) - b.log2 + 1) := by
    rw [div_lt_iff₀ hb']
    calc (a : ℚ) < 2 ^ ((a.log2 : ℤ) + 1) := ha₁
      _ = 2 ^ ((a.log2 : ℤ) - b.log2 + 1) * 2 ^ (b.log2 : ℤ) := by
          rw [← zpow_add₀ two_ne_zero]; congr 1; ring
      _ ≤ 2 ^ ((a.log2 : ℤ) - b.log2 + 1) * b :=
          mul_le_mul_of_nonneg_left hb₀ (two_zpow_pos _).le
  unfold leadingExponent
  simp only [Nat.pow_eq, lt_iff_lt_two_zpow hb]
  split
  · next h => exact ⟨hlow, by simpa using h⟩
  · next h => exact ⟨not_lt.mp h, hhigh⟩

/-! ## The nearest double -/

theorem roundDiv_scaled (a : Nat) {b : Nat} (hb : 0 < b) (e : ℤ) :
    (roundDiv (a * 2 ^ (-e).toNat) (b * 2 ^ e.toNat) : ℤ) = roundRat (a / b * 2 ^ (-e)) := by
  have hpos : 0 < b * 2 ^ e.toNat := Nat.mul_pos hb (Nat.two_pow_pos _)
  rw [← roundRat_div _ hpos, two_zpow, neg_neg]
  push_cast
  rw [div_mul_div_comm]

@[simp] theorem nearest_zero : nearest 0 = 0 := by
  have h : ofRat 0 = .finite false 0 0 := rfl
  rw [nearest, h, toRat_finite]
  simp

theorem natAbs_num_pos {x : ℚ} (hx : x ≠ 0) : 0 < x.num.natAbs :=
  Int.natAbs_pos.mpr (Rat.num_ne_zero.mpr hx)

theorem natAbs_num_div {x : ℚ} (hx : 0 ≤ x) : (x.num.natAbs / x.den : ℚ) = x := by
  have hnum : ((x.num.natAbs : ℤ) : ℚ) = x.num := by
    rw [Int.natAbs_of_nonneg (Rat.num_nonneg.mpr hx)]
  rw [← Int.cast_natCast, hnum, Rat.num_div_den]

/-! ## Multiples of the last place -/

/-- The exponent of the last place that a double near a number has. -/
def lastPlace (x : ℚ) : ℤ := lastExponent x.num.natAbs x.den

/-- **The nearest multiple of the last place**, whether it is in the range of doubles or not. -/
def rounded (x : ℚ) : ℚ := roundRat (x * 2 ^ (-lastPlace x)) * 2 ^ lastPlace x

@[simp] theorem rounded_zero : rounded 0 = 0 := by simp [rounded]

/-- Rounding is odd. -/
theorem rounded_neg (x : ℚ) : rounded (-x) = -rounded x := by
  have hplace : lastPlace (-x) = lastPlace x := by
    unfold lastPlace
    rw [Rat.num_neg_eq_neg_num, Rat.neg_den, Int.natAbs_neg]
  unfold rounded
  rw [hplace, neg_mul, roundRat_neg]
  push_cast
  ring

theorem rounded_nonneg {x : ℚ} (hx : 0 ≤ x) : 0 ≤ rounded x := by
  have hround := roundRat_nonneg (mul_nonneg hx (two_zpow_pos (-lastPlace x)).le)
  exact mul_nonneg (by exact_mod_cast hround) (two_zpow_pos _).le

/-- The last place of a number is as large as a double can have it, and not smaller than `-1074`. -/
theorem lastPlace_spec {x : ℚ} (hx : 0 < x) :
    ∃ e : ℤ, (2 : ℚ) ^ e ≤ x ∧ x < 2 ^ (e + 1) ∧ lastPlace x = max (e - 52) (-1074) := by
  have hspec := leadingExponent_spec (natAbs_num_pos hx.ne') x.den_pos
  rw [natAbs_num_div hx.le] at hspec
  exact ⟨_, hspec.1, hspec.2, rfl⟩

theorem roundRat_two_zpow {e : ℤ} (h : 0 ≤ e) : (roundRat (2 ^ e) : ℚ) = 2 ^ e := by
  obtain ⟨n, rfl⟩ := Int.eq_ofNat_of_zero_le h
  have hcast : (2 : ℚ) ^ ((n : ℕ) : ℤ) = ((2 ^ n : ℕ) : ℚ) := by
    rw [zpow_natCast]
    push_cast
    rfl
  rw [hcast, roundRat_natCast]
  push_cast
  rfl

theorem scaled_le {x y : ℚ} (h : x ≤ y) (e : ℤ) :
    (roundRat (x * 2 ^ (-e)) * 2 ^ e : ℚ) ≤ roundRat (y * 2 ^ (-e)) * 2 ^ e := by
  have hle : roundRat (x * 2 ^ (-e)) ≤ roundRat (y * 2 ^ (-e)) :=
    roundRat_mono (mul_le_mul_of_nonneg_right h (two_zpow_pos _).le)
  exact mul_le_mul_of_nonneg_right (by exact_mod_cast hle) (two_zpow_pos _).le

/-- A power of two is a multiple of every smaller place. -/
theorem scaled_two_zpow {e f : ℤ} (h : e ≤ f) :
    (roundRat (2 ^ f * 2 ^ (-e)) * 2 ^ e : ℚ) = 2 ^ f := by
  rw [← zpow_add₀ two_ne_zero, roundRat_two_zpow (by omega), ← zpow_add₀ two_ne_zero]
  congr 1
  omega

theorem rounded_le_of_pos {x y : ℚ} (hx : 0 < x) (h : x ≤ y) : rounded x ≤ rounded y := by
  obtain ⟨e, hxe, hxe', hxl⟩ := lastPlace_spec hx
  obtain ⟨f, hyf, hyf', hyl⟩ := lastPlace_spec (hx.trans_le h)
  have hef : e < f + 1 := le_of_two_zpow_lt (hxe.trans_lt (h.trans_lt hyf'))
  unfold rounded
  rcases (show lastPlace x ≤ lastPlace y by omega).eq_or_lt with heq | hlt
  · rw [heq]
    exact scaled_le h _
  · -- The greatest power of two that is not above `y` lies between the two.
    have hxf : x ≤ 2 ^ f := hxe'.le.trans (two_zpow_le (by omega))
    calc (roundRat (x * 2 ^ (-lastPlace x)) * 2 ^ lastPlace x : ℚ)
        ≤ roundRat (2 ^ f * 2 ^ (-lastPlace x)) * 2 ^ lastPlace x := scaled_le hxf _
      _ = 2 ^ f := scaled_two_zpow (by omega)
      _ = roundRat (2 ^ f * 2 ^ (-lastPlace y)) * 2 ^ lastPlace y :=
          (scaled_two_zpow (by omega)).symm
      _ ≤ roundRat (y * 2 ^ (-lastPlace y)) * 2 ^ lastPlace y := scaled_le hyf _

/-- **Rounding keeps the order.** -/
theorem rounded_mono {x y : ℚ} (h : x ≤ y) : rounded x ≤ rounded y := by
  rcases lt_or_ge 0 x with hx | hx
  · exact rounded_le_of_pos hx h
  · have hneg : rounded x ≤ 0 := by
      have hle := rounded_nonneg (neg_nonneg.mpr hx)
      rw [rounded_neg] at hle
      linarith
    rcases lt_or_ge y 0 with hy | hy
    · have hle := rounded_le_of_pos (neg_pos.mpr hy) (neg_le_neg h)
      rw [rounded_neg, rounded_neg] at hle
      linarith
    · exact hneg.trans (rounded_nonneg hy)

/-- A natural multiple of the last place is left as it is. -/
theorem rounded_of_multiple {x : ℚ} {n : Nat} (h : x * 2 ^ (-lastPlace x) = n) : rounded x = x := by
  unfold rounded
  rw [h, roundRat_natCast, Int.cast_natCast, ← h, mul_assoc, ← zpow_add₀ two_ne_zero,
    neg_add_cancel, zpow_zero, mul_one]

/-- **A number with a mantissa of 53 bits is left as it is.** -/
theorem rounded_mantissa {n : Nat} (hn : n ≤ 2 ^ 53) {e : ℤ} (he : -1074 ≤ e) :
    rounded (n * 2 ^ e) = n * 2 ^ e := by
  rcases Nat.eq_zero_or_pos n with rfl | hpos
  · simp
  have hx : (0 : ℚ) < n * 2 ^ e := mul_pos (by exact_mod_cast hpos) (two_zpow_pos e)
  obtain ⟨f, hf, -, hlast⟩ := lastPlace_spec hx
  rcases le_or_gt (lastPlace (n * 2 ^ e)) e with hle | hlt
  · -- The last place is not above the exponent, so nothing is rounded.
    obtain ⟨k, hk⟩ := Int.eq_ofNat_of_zero_le (show 0 ≤ e - lastPlace (n * 2 ^ e) by omega)
    refine rounded_of_multiple (n := n * 2 ^ k) ?_
    rw [mul_assoc, ← zpow_add₀ two_ne_zero, ← sub_eq_add_neg, hk, zpow_natCast]
    push_cast
    rfl
  · -- Only the power of two with one bit more has a last place above the exponent.
    have hle : (n * 2 ^ e : ℚ) ≤ 2 ^ (53 + e) := by
      rw [zpow_add₀ two_ne_zero]
      exact mul_le_mul_of_nonneg_right (by exact_mod_cast hn) (two_zpow_pos e).le
    have heq : (n * 2 ^ e : ℚ) = 2 ^ f := le_antisymm (hle.trans (two_zpow_le (by omega))) hf
    unfold rounded
    rw [heq] at hlast hlt ⊢
    exact scaled_two_zpow (by omega)

/-- In units of the last place a number has 53 bits at most, and no fewer unless the last place is
the least one. -/
theorem scaled_bounds {x : ℚ} (hx : 0 < x) : x * 2 ^ (-lastPlace x) ≤ ((2 ^ 53 : ℕ) : ℚ) ∧
    (-1074 < lastPlace x → ((2 ^ 52 : ℕ) : ℚ) ≤ x * 2 ^ (-lastPlace x)) := by
  obtain ⟨e, hlow, hhigh, hlast⟩ := lastPlace_spec hx
  constructor
  · calc x * 2 ^ (-lastPlace x) ≤ 2 ^ (e + 1) * 2 ^ (-lastPlace x) :=
          mul_le_mul_of_nonneg_right hhigh.le (two_zpow_pos _).le
      _ = 2 ^ (e + 1 - lastPlace x) := by rw [← zpow_add₀ two_ne_zero, sub_eq_add_neg]
      _ ≤ 2 ^ (53 : ℤ) := two_zpow_le (by omega)
      _ = ((2 ^ 53 : ℕ) : ℚ) := by norm_num
  · intro hplace
    calc ((2 ^ 52 : ℕ) : ℚ) = 2 ^ (52 : ℤ) := by norm_num
      _ ≤ 2 ^ (e - lastPlace x) := two_zpow_le (by omega)
      _ = 2 ^ e * 2 ^ (-lastPlace x) := by rw [← zpow_add₀ two_ne_zero, sub_eq_add_neg]
      _ ≤ x * 2 ^ (-lastPlace x) := mul_le_mul_of_nonneg_right hlow (two_zpow_pos _).le

/-- **The rounded number has such a mantissa**, -/
theorem exists_mantissa {x : ℚ} (hx : 0 < x) : ∃ n : Nat, n ≤ 2 ^ 53 ∧
    roundRat (x * 2 ^ (-lastPlace x)) = n ∧ rounded x = n * 2 ^ lastPlace x ∧
    -1074 ≤ lastPlace x ∧ (-1074 < lastPlace x → 2 ^ 52 ≤ n) := by
  obtain ⟨hhigh, hlow⟩ := scaled_bounds hx
  obtain ⟨e, -, -, hlast⟩ := lastPlace_spec hx
  have hupper := roundRat_mono hhigh
  rw [roundRat_natCast] at hupper
  have hnonneg := roundRat_nonneg (mul_pos hx (two_zpow_pos (-lastPlace x))).le
  refine ⟨(roundRat (x * 2 ^ (-lastPlace x))).toNat, by omega, by omega, ?_, by omega, fun h => ?_⟩
  · unfold rounded
    rw [← Int.cast_natCast, Int.toNat_of_nonneg hnonneg]
  · have hlower := roundRat_mono (hlow h)
    rw [roundRat_natCast] at hlower
    omega

/-- and so **rounding once more changes nothing**. -/
theorem rounded_rounded (x : ℚ) : rounded (rounded x) = rounded x := by
  have hnonneg : ∀ {y : ℚ}, 0 ≤ y → rounded (rounded y) = rounded y := by
    intro y hy
    rcases hy.eq_or_lt with rfl | hy
    · simp
    · obtain ⟨n, hn, -, hround, hplace, -⟩ := exists_mantissa hy
      rw [hround, rounded_mantissa hn hplace]
  rcases le_total 0 x with hx | hx
  · exact hnonneg hx
  · have h := hnonneg (neg_nonneg.mpr hx)
    rw [rounded_neg, rounded_neg] at h
    exact neg_inj.mp h

/-- **Whole numbers up to `2 ^ 53` are left as they are.** -/
theorem rounded_natCast {n : Nat} (h : n ≤ 2 ^ 53) : rounded (n : ℚ) = n := by
  have hround := rounded_mantissa h (e := 0) (by decide)
  rwa [zpow_zero, mul_one] at hround

/-! ## Numbers in range -/

/-- **The nearest double is odd.** -/
theorem nearest_neg (x : ℚ) : nearest (-x) = -nearest x := by
  rcases eq_or_ne x 0 with rfl | hx
  · simp
  · have hflip : decide (-x < 0) = !decide (x < 0) := by
      rcases lt_or_gt_of_ne hx with h | h
      · have hn : ¬-x < 0 := by linarith
        simp [h, hn]
      · have hn : -x < 0 := by linarith
        have hp : ¬x < 0 := by linarith
        simp [hn, hp]
    have hswap : ∀ (negative : Bool) (a b : Nat),
        (ofQuotient (!negative) a b).toRat = -(ofQuotient negative a b).toRat := by
      intro negative a b
      unfold ofQuotient
      simp only
      split_ifs <;> cases negative <;> simp [toRat_finite, toRat_infinite]
    unfold nearest ofRat
    rw [hflip, Rat.num_neg_eq_neg_num, Rat.neg_den, Int.natAbs_neg, hswap]

/-- **A double for a positive number is the rounded number, or it is infinite**, according to
whether the rounded number is in range. -/
theorem ofQuotient_cases (negative : Bool) {x : ℚ} (hx : 0 < x) :
    (∃ m e, ofQuotient negative x.num.natAbs x.den = finite negative m e ∧
      (m * 2 ^ e : ℚ) = rounded x ∧ rounded x < 2 ^ (1024 : ℤ)) ∨
    ofQuotient negative x.num.natAbs x.den = infinite negative ∧
      (2 : ℚ) ^ (1024 : ℤ) ≤ rounded x := by
  obtain ⟨n, hn, hround, hrounded, -, hlow⟩ := exists_mantissa hx
  have hm : roundDiv (x.num.natAbs * 2 ^ (-lastPlace x).toNat) (x.den * 2 ^ (lastPlace x).toNat) =
      n := by
    have hscaled := roundDiv_scaled x.num.natAbs x.den_pos (lastPlace x)
    rw [natAbs_num_div hx.le, hround] at hscaled
    exact_mod_cast hscaled
  unfold ofQuotient
  rw [if_neg (natAbs_num_pos hx.ne').ne']
  simp only [Nat.pow_eq]
  rw [show lastExponent x.num.natAbs x.den = lastPlace x from rfl, hm, hrounded]
  generalize lastPlace x = e at hlow ⊢
  have hvalue : ∀ f : ℤ, f = 53 + e → ((2 ^ 53 : ℕ) * 2 ^ e : ℚ) = 2 ^ f := by
    rintro f rfl
    rw [zpow_add₀ two_ne_zero]
    norm_num
  by_cases hfull : n = 0x20000000000000
  · rw [if_pos hfull, show (n : ℚ) = (2 ^ 53 : ℕ) by rw [hfull]; norm_num, hvalue _ rfl]
    by_cases he : 970 < e
    · rw [if_pos he]
      exact Or.inr ⟨rfl, two_zpow_le (by omega)⟩
    · rw [if_neg he]
      refine Or.inl ⟨_, _, rfl, ?_, zpow_lt_zpow_right₀ one_lt_two (by omega)⟩
      rw [zpow_add₀ two_ne_zero e 1, zpow_add₀ two_ne_zero 53 e]
      norm_num
      ring
  · rw [if_neg hfull]
    by_cases he : 971 < e
    · rw [if_pos he]
      refine Or.inr ⟨rfl, ?_⟩
      calc (2 : ℚ) ^ (1024 : ℤ) ≤ 2 ^ (52 + e) := two_zpow_le (by omega)
        _ = 2 ^ (52 : ℤ) * 2 ^ e := zpow_add₀ two_ne_zero 52 e
        _ ≤ n * 2 ^ e := by
          refine mul_le_mul_of_nonneg_right ?_ (two_zpow_pos e).le
          exact_mod_cast hlow (by omega)
    · rw [if_neg he]
      refine Or.inl ⟨_, _, rfl, rfl, ?_⟩
      calc (n * 2 ^ e : ℚ) < (2 ^ 53 : ℕ) * 2 ^ e := by
            refine mul_lt_mul_of_pos_right ?_ (two_zpow_pos e)
            exact_mod_cast lt_of_le_of_ne hn hfull
        _ = 2 ^ (53 + e) := hvalue _ rfl
        _ ≤ 2 ^ (1024 : ℤ) := two_zpow_le (by omega)

/-- **The nearest double to a number in range is the rounded number.** -/
theorem nearest_eq_rounded {x : ℚ} (h : |rounded x| < 2 ^ (1024 : ℤ)) : nearest x = rounded x := by
  have hpos : ∀ {y : ℚ}, 0 < y → rounded y < 2 ^ (1024 : ℤ) → nearest y = rounded y := by
    intro y hy hlt
    have hneg : decide (y < 0) = false := decide_eq_false (not_lt.mpr hy.le)
    unfold nearest ofRat
    rw [hneg]
    rcases ofQuotient_cases false hy with ⟨m, e, hfinite, hvalue, -⟩ | ⟨-, hle⟩
    · rw [hfinite, toRat_finite, ← hvalue]
      simp
    · exact absurd hlt (not_lt.mpr hle)
  rcases lt_trichotomy x 0 with hx | rfl | hx
  · have hflip := hpos (neg_pos.mpr hx) (by rw [rounded_neg]; exact (neg_le_abs _).trans_lt h)
    rw [nearest_neg, rounded_neg] at hflip
    exact neg_inj.mp hflip
  · simp
  · exact hpos hx ((le_abs_self _).trans_lt h)

theorem rounded_lt {x : ℚ} (h : x < 2 ^ (1022 : ℤ)) : rounded x < 2 ^ (1024 : ℤ) := by
  have hpower : rounded (2 ^ (1022 : ℤ)) = 2 ^ (1022 : ℤ) := by
    have hone := rounded_mantissa (n := 1) (by decide) (e := 1022) (by decide)
    simpa using hone
  calc rounded x ≤ 2 ^ (1022 : ℤ) := hpower ▸ rounded_mono h.le
    _ < 2 ^ (1024 : ℤ) := zpow_lt_zpow_right₀ one_lt_two (by decide)

theorem abs_rounded_lt {x : ℚ} (h : |x| < 2 ^ (1022 : ℤ)) : |rounded x| < 2 ^ (1024 : ℤ) := by
  obtain ⟨hlow, hhigh⟩ := abs_lt.mp h
  have hneg := rounded_lt (neg_lt.mp hlow)
  rw [rounded_neg] at hneg
  exact abs_lt.mpr ⟨neg_lt.mp hneg, rounded_lt hhigh⟩

/-- **The nearest double keeps the order.** -/
theorem nearest_mono {x y : ℚ} (h : x ≤ y) (hx : -2 ^ (1022 : ℤ) < x) (hy : y < 2 ^ (1022 : ℤ)) :
    nearest x ≤ nearest y := by
  rw [nearest_eq_rounded (abs_rounded_lt (abs_lt.mpr ⟨hx, h.trans_lt hy⟩)),
    nearest_eq_rounded (abs_rounded_lt (abs_lt.mpr ⟨hx.trans_le h, hy⟩))]
  exact rounded_mono h

/-- **A quotient of a number of fewer than 1024 bits is in the range of doubles.** -/
theorem ofQuotient_of_log2_lt {a : Nat} (h : a.log2 < 1023) (negative : Bool) (b : Nat) :
    ∃ m e, ofQuotient negative a b = finite negative m e := by
  unfold ofQuotient
  split
  · exact ⟨0, 0, rfl⟩
  · have hlead : leadingExponent a b ≤ a.log2 := by
      unfold leadingExponent
      dsimp only
      split <;> omega
    have hlast : lastExponent a b ≤ 970 := by
      unfold lastExponent
      omega
    dsimp only
    split
    · exact ⟨_, _, if_neg (by omega)⟩
    · exact ⟨_, _, if_neg (by omega)⟩

/-- **Natural numbers up to `2 ^ 53` are doubles.** -/
theorem nearest_natCast {n : Nat} (h : n ≤ 2 ^ 53) : nearest (n : ℚ) = n := by
  have hsmall : |(n : ℚ)| < 2 ^ (1022 : ℤ) := by
    rw [abs_of_nonneg (Nat.cast_nonneg n)]
    calc (n : ℚ) ≤ 2 ^ (53 : ℤ) := by exact_mod_cast h
      _ < 2 ^ (1022 : ℤ) := zpow_lt_zpow_right₀ one_lt_two (by decide)
  rw [nearest_eq_rounded (abs_rounded_lt hsmall), rounded_natCast h]

theorem nearest_intCast {n : Int} (h : n.natAbs ≤ 2 ^ 53) : nearest (n : ℚ) = n := by
  obtain ⟨k, rfl | rfl⟩ := n.eq_nat_or_neg
  · exact_mod_cast nearest_natCast (n := k) (by simpa using h)
  · push_cast
    rw [nearest_neg, nearest_natCast (by simpa using h)]

end Binary64

end Gazetteer.Number
