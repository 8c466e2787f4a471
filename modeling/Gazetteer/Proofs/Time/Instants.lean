import Gazetteer.Proofs.Number.Nearest
import Gazetteer.Proofs.Time.Order

/-!
# The clock shows instants in order

A later reading of the clock never shows an earlier instant, although a fraction of a second is
rounded twice on its way to microseconds: both roundings keep the order, and neither leaves the
second that the fraction belongs to.

* `microsecondsOf_mono`: the microseconds keep the order of numbers of seconds;
* `ofClock_mono`: the instants keep the order of the readings.
-/

namespace Gazetteer.Instant

open Number Binary64

/-! ## The fraction of a second -/

/-- The microseconds of a fraction. -/
def fraction (x : ℚ) : Int := roundRat (nearest (x * 1000000))

theorem fraction_mono {x y : ℚ} (hx : -1 ≤ x) (h : x ≤ y) (hy : y ≤ 1) :
    fraction x ≤ fraction y := by
  have hlarge : (1000000 : ℚ) < 2 ^ (1022 : ℤ) :=
    calc (1000000 : ℚ) < 2 ^ (20 : ℤ) := by norm_num
      _ ≤ 2 ^ (1022 : ℤ) := two_zpow_le (by decide)
  refine roundRat_mono (nearest_mono (by linarith) ?_ ?_)
  · exact (neg_lt_neg hlarge).trans_le (by linarith)
  · exact lt_of_le_of_lt (by linarith) hlarge

theorem fraction_zero : fraction 0 = 0 := by
  unfold fraction
  simp

theorem fraction_one : fraction 1 = 1000000 := by
  have h : (1 : ℚ) * 1000000 = ((1000000 : ℕ) : ℚ) := by norm_num
  unfold fraction
  rw [h, nearest_natCast (by decide), roundRat_natCast]
  rfl

theorem fraction_neg (x : ℚ) : fraction (-x) = -fraction x := by
  unfold fraction
  rw [neg_mul, nearest_neg, roundRat_neg]

/-- **A fraction stays within its second.** -/
theorem fraction_nonneg {x : ℚ} (h₀ : 0 ≤ x) (h₁ : x ≤ 1) :
    0 ≤ fraction x ∧ fraction x ≤ 1000000 := by
  have hlow := fraction_mono (by linarith) h₀ h₁
  have hhigh := fraction_mono (by linarith) h₁ le_rfl
  rw [fraction_zero] at hlow
  rw [fraction_one] at hhigh
  exact ⟨hlow, hhigh⟩

theorem fraction_nonpos {x : ℚ} (h₀ : -1 ≤ x) (h₁ : x ≤ 0) :
    -1000000 ≤ fraction x ∧ fraction x ≤ 0 := by
  have h := fraction_nonneg (x := -x) (by linarith) (by linarith)
  rw [fraction_neg] at h
  omega

/-! ## Whole seconds and fractions -/

theorem microsecondsOf_of_nonneg {x : ℚ} (h : 0 ≤ x) :
    microsecondsOf x = x.floor * 1000000 + fraction (x - x.floor) := by
  unfold microsecondsOf fraction
  rw [if_neg (not_lt.mpr h)]

theorem microsecondsOf_of_neg {x : ℚ} (h : x < 0) :
    microsecondsOf x = x.ceil * 1000000 + fraction (x - x.ceil) := by
  unfold microsecondsOf fraction
  rw [if_pos h]

theorem floor_fraction (x : ℚ) : 0 ≤ x - x.floor ∧ x - x.floor ≤ 1 := by
  have h₁ := Rat.floor_le x
  have h₂ := Rat.lt_floor_add_one x
  push_cast at h₂
  constructor <;> linarith

theorem ceil_fraction (x : ℚ) : -1 ≤ x - x.ceil ∧ x - x.ceil ≤ 0 := by
  have h₁ := Rat.le_ceil (x := x)
  have h₂ := Rat.ceil_lt (x := x)
  constructor <;> linarith

theorem microsecondsOf_nonneg {x : ℚ} (h : 0 ≤ x) : 0 ≤ microsecondsOf x := by
  have hfloor : 0 ≤ x.floor := Rat.le_floor_iff.mpr (by simpa using h)
  have hfrac := fraction_nonneg (floor_fraction x).1 (floor_fraction x).2
  rw [microsecondsOf_of_nonneg h]
  omega

theorem microsecondsOf_nonpos {x : ℚ} (h : x < 0) : microsecondsOf x ≤ 0 := by
  have hceil : x.ceil ≤ 0 := Rat.ceil_le_iff.mpr (by simpa using h.le)
  have hfrac := fraction_nonpos (ceil_fraction x).1 (ceil_fraction x).2
  rw [microsecondsOf_of_neg h]
  omega

/-- **The microseconds keep the order.** -/
theorem microsecondsOf_mono {x y : ℚ} (h : x ≤ y) : microsecondsOf x ≤ microsecondsOf y := by
  rcases le_or_gt 0 x with hx | hx
  · have hy := hx.trans h
    have hfx := floor_fraction x
    have hfy := floor_fraction y
    have hle : x.floor ≤ y.floor := Rat.le_floor_iff.mpr ((Rat.floor_le x).trans h)
    rw [microsecondsOf_of_nonneg hx, microsecondsOf_of_nonneg hy]
    rcases hle.eq_or_lt with heq | hlt
    · have hfrac : fraction (x - x.floor) ≤ fraction (y - y.floor) :=
        fraction_mono (by linarith) (by rw [heq]; linarith) hfy.2
      omega
    · have h₁ := fraction_nonneg hfx.1 hfx.2
      have h₂ := fraction_nonneg hfy.1 hfy.2
      omega
  · rcases le_or_gt 0 y with hy | hy
    · exact (microsecondsOf_nonpos hx).trans (microsecondsOf_nonneg hy)
    · have hfx := ceil_fraction x
      have hfy := ceil_fraction y
      have hle : x.ceil ≤ y.ceil := Rat.ceil_le_iff.mpr (h.trans Rat.le_ceil)
      rw [microsecondsOf_of_neg hx, microsecondsOf_of_neg hy]
      rcases hle.eq_or_lt with heq | hlt
      · have hfrac : fraction (x - x.ceil) ≤ fraction (y - y.ceil) :=
          fraction_mono hfx.1 (by rw [heq]; linarith) (by linarith)
        omega
      · have h₁ := fraction_nonpos hfx.1 hfx.2
        have h₂ := fraction_nonpos hfy.1 hfy.2
        omega

theorem microsecondsOf_intCast (n : Int) : microsecondsOf (n : ℚ) = n * 1000000 := by
  have hwhole : (if (n : ℚ) < 0 then (n : ℚ).ceil else (n : ℚ).floor) = n := by
    rw [Rat.ceil_intCast, Rat.floor_intCast, ite_self]
  unfold microsecondsOf
  simp only [hwhole, sub_self, zero_mul, nearest_zero, roundRat_zero, add_zero]

/-! ## Readings of the clock -/

/-- What a reading shows is settled by its place on the line. -/
theorem exists_of_ofClock {q : Quantity} {t : Instant} (h : ofClock q = .ok t) :
    ∃ x : ℚ, q.level = ((x : WithTop ℚ) : WithBot (WithTop ℚ)) ∧ t = microsecondsOf x := by
  have hmicro : microseconds q = .ok t := by
    unfold ofClock at h
    cases hm : microseconds q with
    | error fault => rw [hm] at h; cases h
    | ok n =>
      rw [hm] at h
      simp only [bind, Except.bind] at h
      split_ifs at h
      cases h
      rfl
  rcases q with n | (⟨negative, m, e⟩ | negative | _)
  · cases hmicro
    exact ⟨n, rfl, (microsecondsOf_intCast n).symm⟩
  · cases hmicro
    exact ⟨_, rfl, rfl⟩
  · cases hmicro
  · cases hmicro

/-- A reading that shows an instant is a number. -/
theorem le_of_ofClock {q : Quantity} {t : Instant} (h : ofClock q = .ok t) : q.Le q := by
  obtain ⟨x, hx, -⟩ := exists_of_ofClock h
  have hnumber : q.isNumber := by
    rcases q with n | (⟨negative, m, e⟩ | negative | _)
    · rfl
    · rfl
    · rfl
    · exact absurd hx WithBot.bot_ne_coe
  exact Quantity.le_iff.mpr ⟨hnumber, hnumber, le_rfl⟩

/-- **A later reading never shows an earlier instant.** -/
theorem ofClock_mono {q r : Quantity} {s t : Instant} (h : q.Le r) (hs : ofClock q = .ok s)
    (ht : ofClock r = .ok t) : s ≤ t := by
  obtain ⟨x, hx, rfl⟩ := exists_of_ofClock hs
  obtain ⟨y, hy, rfl⟩ := exists_of_ofClock ht
  have hle := (Quantity.le_iff.mp h).2.2
  rw [hx, hy, WithBot.coe_le_coe, WithTop.coe_le_coe] at hle
  exact microsecondsOf_mono hle

end Gazetteer.Instant
