import Gazetteer.Proofs.Number.Nearest
import Mathlib.Algebra.Order.Floor.Semiring
import Mathlib.Data.Rat.Floor

/-!
# Rounding up a rounded quotient

A quotient of two numbers of 53 bits is either whole, and then it is a double itself, or it is
further from the whole number below it than half of the last place there.  The nearest double is
then above that whole number too, so the quotient and its double are the same rounded up.

* `ofQuotient_congr`: the double for a quotient depends on its value only;
* `ceilDiv_eq_ceil`: the quotient rounded up;
* `lt_roundRat`: what is above the middle between two whole numbers is not rounded down;
* `natCast_lt_rounded`: a quotient and its double are above the same whole numbers;
* `ceil?_ofQuotient`: so they are the same rounded up;
* `ceil?_ofQuotient_eq_some_iff`, `le_of_ceil?_ofQuotient`: quotients of any numbers.
-/

namespace Gazetteer.Number

/-! ## Rounding up -/

theorem ceilDiv_le_iff {a b n : Nat} (hb : 0 < b) : ceilDiv a b ≤ n ↔ a ≤ n * b := by
  rw [ceilDiv, ← Nat.lt_succ_iff, Nat.div_lt_iff_lt_mul hb, Nat.succ_mul]
  omega

/-- **The quotient rounded up** is the least whole number that is not below it. -/
theorem ceilDiv_eq_ceil (a : Nat) {b : Nat} (hb : 0 < b) : ceilDiv a b = ⌈(a / b : ℚ)⌉₊ := by
  have hb' : (0 : ℚ) < b := by exact_mod_cast hb
  refine eq_of_forall_ge_iff fun n => ?_
  rw [ceilDiv_le_iff hb, Nat.ceil_le, div_le_iff₀ hb']
  exact_mod_cast Iff.rfl

/-! ## Above the middle -/

theorem lt_roundDiv {a b n : Nat} (hb : 0 < b) (h : (2 * n + 1) * b < 2 * a) :
    n < roundDiv a b := by
  have ha : a = b * (a / b) + a % b := (Nat.div_add_mod a b).symm
  have hmod : a % b < b := Nat.mod_lt a hb
  have hsplit : (2 * n + 1) * b = 2 * (b * n) + b := by ring
  rcases Nat.lt_trichotomy (a / b) n with hq | hq | hq
  · have hle : b * (a / b + 1) ≤ b * n := Nat.mul_le_mul_left b hq
    rw [Nat.mul_succ] at hle
    omega
  · -- The remainder is more than half of the divisor.
    rw [hq] at ha
    have hhalf : b < 2 * (a % b) := by omega
    simp [roundDiv, hq, hhalf, hhalf.not_gt]
  · have hround := roundDiv_eq_or a b
    omega

/-- **What is above the middle between two whole numbers** is not rounded to the lower one. -/
theorem lt_roundRat {n : Nat} {x : ℚ} (h : n + 1 / 2 < x) : (n : ℤ) < roundRat x := by
  have hn : (0 : ℚ) ≤ n := Nat.cast_nonneg n
  have hx : 0 ≤ x := by linarith
  have hden : (0 : ℚ) < x.den := by exact_mod_cast x.den_pos
  have hlt : (n + 1 / 2 : ℚ) * x.den < x.num.natAbs := by
    rwa [← lt_div_iff₀ hden, Binary64.natAbs_num_div hx]
  have hcross : ((2 * n + 1) * x.den : ℚ) < 2 * x.num.natAbs := by linarith
  rw [roundRat_of_nonneg hx]
  exact Int.ofNat_lt.mpr (lt_roundDiv x.den_pos (by exact_mod_cast hcross))

namespace Binary64

/-! ## Equal quotients -/

/-- The exponent of the leading bit depends on the quotient only, -/
theorem leadingExponent_congr {a b c d : Nat} (ha : 0 < a) (hb : 0 < b) (hc : 0 < c) (hd : 0 < d)
    (h : (a / b : ℚ) = c / d) : leadingExponent a b = leadingExponent c d := by
  obtain ⟨hlow, hhigh⟩ := leadingExponent_spec ha hb
  obtain ⟨hlow', hhigh'⟩ := leadingExponent_spec hc hd
  rw [h] at hlow hhigh
  have hle := le_of_two_zpow_lt (hlow.trans_lt hhigh')
  have hge := le_of_two_zpow_lt (hlow'.trans_lt hhigh)
  omega

/-- and so does **the nearest double**. -/
theorem ofQuotient_congr (negative : Bool) {a b c d : Nat} (ha : 0 < a) (hb : 0 < b) (hc : 0 < c)
    (hd : 0 < d) (h : (a / b : ℚ) = c / d) : ofQuotient negative a b = ofQuotient negative c d := by
  have hlast : lastExponent a b = lastExponent c d := by
    unfold lastExponent
    rw [leadingExponent_congr ha hb hc hd h]
  have hround (e : ℤ) : roundDiv (a * 2 ^ (-e).toNat) (b * 2 ^ e.toNat) =
      roundDiv (c * 2 ^ (-e).toNat) (d * 2 ^ e.toNat) := by
    have hscaled := roundDiv_scaled a hb e
    rw [h, ← roundDiv_scaled c hd e] at hscaled
    exact_mod_cast hscaled
  unfold ofQuotient
  simp only [Nat.pow_eq, hlast, hround, if_neg ha.ne', if_neg hc.ne']

/-! ## Quotients of two numbers of 53 bits -/

variable {t s m : Nat}

/-- In units of the last place, a quotient with the leading bit of a whole number below it is above
the middle between that number and the next one. -/
theorem half_lt_sub {f : ℤ} (ht : t ≤ 2 ^ 53) (hs : 0 < s) (hm : (2 : ℚ) ^ f ≤ m)
    (h : m * s < t) : (1 / 2 : ℚ) < (t / s - m) * 2 ^ (52 - f) := by
  have hs' : (0 : ℚ) < s := by exact_mod_cast hs
  have hstep : (1 / s : ℚ) ≤ t / s - m := by
    have hle : (m * s + 1 : ℚ) ≤ t := by exact_mod_cast h
    rw [le_sub_iff_add_le, div_add' _ _ _ hs'.ne', div_le_div_iff_of_pos_right hs']
    linarith
  have hsmall : (2 : ℚ) ^ f * s < 2 ^ (53 : ℤ) := by
    calc (2 : ℚ) ^ f * s ≤ m * s := mul_le_mul_of_nonneg_right hm hs'.le
      _ < t := by exact_mod_cast h
      _ ≤ 2 ^ (53 : ℤ) := by exact_mod_cast ht
  calc (1 / 2 : ℚ) < 2 ^ (53 - f) / s / 2 := by
        rw [lt_div_iff₀ two_pos, lt_div_iff₀ hs', zpow_sub₀ two_ne_zero,
          lt_div_iff₀ (two_zpow_pos f)]
        linarith
    _ = 1 / s * 2 ^ (52 - f) := by
        rw [show (53 - f : ℤ) = 52 - f + 1 by ring, zpow_add_one₀ two_ne_zero]
        field_simp
    _ ≤ (t / s - m) * 2 ^ (52 - f) := mul_le_mul_of_nonneg_right hstep (two_zpow_pos _).le

/-- **A whole number below a quotient is below its double.** -/
theorem natCast_lt_rounded (ht : t ≤ 2 ^ 53) (hs : 0 < s) (hs₅₃ : s ≤ 2 ^ 53) (h : m * s < t) :
    (m : ℚ) < rounded (t / s) := by
  have hs' : (0 : ℚ) < s := by exact_mod_cast hs
  have hlt : (m : ℚ) < t / s := by
    rw [lt_div_iff₀ hs']
    exact_mod_cast h
  rcases Nat.eq_zero_or_pos m with rfl | hm
  · -- The quotient is not below the double `2 ^ -53`.
    have hleast : (2 : ℚ) ^ (-53 : ℤ) ≤ t / s := by
      have ht' : (1 : ℚ) ≤ t := by exact_mod_cast (show 0 < t by simpa using h)
      have hs'' : (s : ℚ) ≤ 2 ^ (53 : ℤ) := by exact_mod_cast hs₅₃
      rw [zpow_neg, ← one_div]
      exact div_le_div₀ (by linarith) ht' hs' hs''
    have hfixed : rounded (2 ^ (-53 : ℤ)) = 2 ^ (-53 : ℤ) := by
      simpa using rounded_mantissa (n := 1) (by decide) (e := -53) (by decide)
    calc ((0 : ℕ) : ℚ) = 0 := Nat.cast_zero
      _ < 2 ^ (-53 : ℤ) := two_zpow_pos _
      _ = rounded (2 ^ (-53 : ℤ)) := hfixed.symm
      _ ≤ rounded (t / s) := rounded_mono hleast
  · obtain ⟨f, hf, hf', -⟩ := lastPlace_spec (show (0 : ℚ) < m by exact_mod_cast hm)
    obtain ⟨e, he, he', hplace⟩ := lastPlace_spec ((Nat.cast_nonneg m).trans_lt hlt)
    have hfe : f < e + 1 := le_of_two_zpow_lt (hf.trans_lt (hlt.trans he'))
    have hf0 : 0 < f + 1 := by
      refine le_of_two_zpow_lt (lt_of_le_of_lt ?_ hf')
      rw [zpow_zero]
      exact_mod_cast hm
    rcases (show f ≤ e by omega).lt_or_eq with hlt' | rfl
    · -- There is a power of two between them, which is a double.
      have hfixed : rounded (2 ^ e) = 2 ^ e := by
        simpa using rounded_mantissa (n := 1) (by decide) (e := e) (by omega)
      calc (m : ℚ) < 2 ^ (f + 1) := hf'
        _ ≤ 2 ^ e := two_zpow_le (by omega)
        _ = rounded (2 ^ e) := hfixed.symm
        _ ≤ rounded (t / s) := rounded_mono he
    · -- They have the same places, and the quotient is above the middle.
      have hf₅₃ : f < 53 := by
        have hm₅₃ : m < 2 ^ 53 := by nlinarith
        exact le_of_two_zpow_lt (hf.trans_lt (by exact_mod_cast hm₅₃))
      obtain ⟨k, hk⟩ := Int.eq_ofNat_of_zero_le (show 0 ≤ 52 - f by omega)
      have hlast : lastPlace (t / s) = -k := by omega
      have hhalf := half_lt_sub ht hs hf h
      rw [hk, zpow_natCast] at hhalf
      have hmiddle : ((m * 2 ^ k : ℕ) : ℚ) + 1 / 2 < t / s * 2 ^ (-lastPlace (t / s)) := by
        rw [hlast, neg_neg, zpow_natCast]
        push_cast
        linarith
      have hround : ((m * 2 ^ k : ℕ) : ℚ) < roundRat (t / s * 2 ^ (-lastPlace (t / s))) := by
        exact_mod_cast lt_roundRat hmiddle
      calc (m : ℚ) = (m * 2 ^ k : ℕ) * 2 ^ (-(k : ℤ)) := by
            rw [zpow_neg, zpow_natCast]
            push_cast
            field_simp
        _ < roundRat (t / s * 2 ^ (-lastPlace (t / s))) * 2 ^ (-(k : ℤ)) :=
            mul_lt_mul_of_pos_right hround (two_zpow_pos _)
        _ = rounded (t / s) := by rw [← hlast]; rfl

theorem rounded_div_le (ht : t ≤ 2 ^ 53) (hs : 0 < s) : rounded (t / s) ≤ (2 ^ 53 : ℕ) := by
  have hs' : (0 : ℚ) < s := by exact_mod_cast hs
  rw [← rounded_natCast le_rfl]
  refine rounded_mono ?_
  rw [div_le_iff₀ hs']
  exact_mod_cast ht.trans (Nat.le_mul_of_pos_right _ hs)

/-- **A quotient and its double are the same rounded up.** -/
theorem ceil_rounded (ht : t ≤ 2 ^ 53) (hs : 0 < s) (hs₅₃ : s ≤ 2 ^ 53) :
    ⌈rounded (t / s)⌉₊ = ⌈(t / s : ℚ)⌉₊ := by
  have hs' : (0 : ℚ) < s := by exact_mod_cast hs
  refine eq_of_forall_ge_iff fun n => ?_
  rw [Nat.ceil_le, Nat.ceil_le]
  constructor
  · intro hle
    by_contra hlt
    rw [not_le, lt_div_iff₀ hs'] at hlt
    exact absurd (natCast_lt_rounded ht hs hs₅₃ (by exact_mod_cast hlt)) (not_lt.mpr hle)
  · intro hle
    rcases Nat.le_total n (2 ^ 53) with hn | hn
    · exact (rounded_mono hle).trans (rounded_natCast hn).le
    · exact (rounded_div_le ht hs).trans (by exact_mod_cast hn)

theorem ceil?_finite (m : Nat) (e : ℤ) :
    (finite false m e).ceil? = some ⌈(m * 2 ^ e : ℚ)⌉₊ := by
  rw [ceil?, Nat.pow_eq, Nat.pow_eq, ceilDiv_eq_ceil _ (Nat.two_pow_pos _), two_zpow,
    mul_div_assoc']
  push_cast
  rfl

/-- **The double for a quotient, rounded up**: there is a number if the double is in range. -/
theorem ceil?_ofQuotient_eq_some_iff {n : Nat} (hs : 0 < s) :
    (ofQuotient false t s).ceil? = some n ↔
      rounded (t / s) < 2 ^ (1024 : ℤ) ∧ ⌈rounded (t / s)⌉₊ = n := by
  rcases Nat.eq_zero_or_pos t with rfl | hpos
  · simp [ofQuotient, ceil?, ceilDiv]
  · have hx : (0 : ℚ) < t / s := div_pos (by exact_mod_cast hpos) (by exact_mod_cast hs)
    have hq := ofQuotient_congr false hpos hs (natAbs_num_pos hx.ne') (t / s : ℚ).den_pos
      (natAbs_num_div hx.le).symm
    rcases ofQuotient_cases false hx with ⟨m, e, hfinite, hvalue, hlt⟩ | ⟨hinfinite, hle⟩
    · rw [hq, hfinite, ceil?_finite, hvalue, Option.some.injEq]
      exact (and_iff_right hlt).symm
    · rw [hq, hinfinite]
      exact iff_of_false nofun fun h => absurd h.1 (not_lt.mpr hle)

/-- **The double for a quotient, rounded up, is the quotient rounded up.** -/
theorem ceil?_ofQuotient (ht : t ≤ 2 ^ 53) (hs : 0 < s) (hs₅₃ : s ≤ 2 ^ 53) :
    (ofQuotient false t s).ceil? = some ⌈(t / s : ℚ)⌉₊ := by
  have hrange : rounded (t / s) < 2 ^ (1024 : ℤ) :=
    calc rounded (t / s) ≤ (2 ^ 53 : ℕ) := rounded_div_le ht hs
      _ = 2 ^ (53 : ℤ) := by norm_num
      _ < 2 ^ (1024 : ℤ) := zpow_lt_zpow_right₀ one_lt_two (by decide)
  exact (ceil?_ofQuotient_eq_some_iff hs).mpr ⟨hrange, ceil_rounded ht hs hs₅₃⟩

/-- No double, rounded up, is beyond the range of doubles. -/
theorem le_of_ceil?_ofQuotient {n : Nat} (hs : 0 < s)
    (h : (ofQuotient false t s).ceil? = some n) : n ≤ 2 ^ 1024 := by
  obtain ⟨hrange, rfl⟩ := (ceil?_ofQuotient_eq_some_iff hs).mp h
  refine Nat.ceil_le.mpr (hrange.le.trans (le_of_eq ?_))
  rw [Nat.cast_pow, Nat.cast_ofNat]
  exact zpow_natCast 2 1024

end Binary64

end Gazetteer.Number
