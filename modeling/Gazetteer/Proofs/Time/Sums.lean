import Gazetteer.Proofs.Number.Nearest
import Gazetteer.Proofs.Time.Order

/-!
# Sums of clock readings

As soon as the clock shows a double, the end of a lifetime is a rounded sum.  A rounded sum may be
later than the sum itself, but not so much later that a double comes in between: what the clock
shows before the rounded end it shows before the end.

* `reach`, `level_ofRat`: the level of the double for a number;
* `IsSettled`: a reading that rounding leaves as it is; sums are settled (`isSettled_add`);
* `lt_end_of_lt`: a reading before the end of a lifetime that is a double, or is counted by whole
  seconds, is before the exact end.
-/

namespace Gazetteer.Number

open Binary64

/-! ## The level of a double -/

/-- The level of a rounded number, which is an end of the line if it is out of the range of
doubles. -/
def Quantity.reach (y : ℚ) : WithBot (WithTop ℚ) :=
  if 2 ^ (1024 : ℤ) ≤ y then ⊤ else if y ≤ -2 ^ (1024 : ℤ) then ⊥ else ((y : WithTop ℚ) : _)

namespace Quantity

theorem reach_mono {x y : ℚ} (h : x ≤ y) : reach x ≤ reach y := by
  unfold reach
  by_cases hy : 2 ^ (1024 : ℤ) ≤ y
  · rw [if_pos hy]
    exact le_top
  · rw [if_neg (fun hx => hy (hx.trans h)), if_neg hy]
    by_cases hx : x ≤ -2 ^ (1024 : ℤ)
    · rw [if_pos hx]
      exact bot_le
    · rw [if_neg hx, if_neg fun hy' => hx (h.trans hy')]
      exact_mod_cast h

theorem reach_of_abs_lt {y : ℚ} (h : |y| < 2 ^ (1024 : ℤ)) :
    reach y = ((y : WithTop ℚ) : WithBot (WithTop ℚ)) := by
  obtain ⟨hlow, hhigh⟩ := abs_lt.mp h
  unfold reach
  rw [if_neg (not_le.mpr hhigh), if_neg (not_le.mpr hlow)]

theorem reach_zero : reach 0 = ((0 : ℚ) : WithTop ℚ) := reach_of_abs_lt (by simp)

theorem level_finite (a : Bool) (m : Nat) (e : Int) : (real (.finite a m e)).level =
    (((finite a m e).toRat : WithTop ℚ) : WithBot (WithTop ℚ)) := rfl

theorem toRat_finite_zero (a : Bool) (e : Int) : (finite a 0 e).toRat = 0 := by
  simp [toRat_finite]

/-- **The double for a number is at the level of the rounded number**, unless that is out of
range. -/
theorem level_ofRat (x : ℚ) : (real (ofRat x)).level = reach (rounded x) := by
  rcases lt_trichotomy x 0 with hx | rfl | hx
  · have hneg : decide (x < 0) = true := decide_eq_true hx
    have hquotient : ofRat x = ofQuotient true (-x).num.natAbs (-x).den := by
      rw [ofRat, hneg, Rat.num_neg_eq_neg_num, Rat.neg_den, Int.natAbs_neg]
    have hflip : rounded x = -rounded (-x) := by rw [rounded_neg, neg_neg]
    rw [hquotient, hflip]
    rcases ofQuotient_cases true (neg_pos.mpr hx) with ⟨m, e, hf, hvalue, hlt⟩ | ⟨hf, hle⟩
    · have hnonneg := rounded_nonneg (neg_nonneg.mpr hx.le)
      rw [hf, reach_of_abs_lt (by rw [abs_neg, abs_of_nonneg hnonneg]; exact hlt), level_finite,
        toRat_finite, hvalue]
      simp
    · have hpos := two_zpow_pos 1024
      have hbelow : -rounded (-x) < 2 ^ (1024 : ℤ) :=
        (neg_lt_zero.mpr (hpos.trans_le hle)).trans hpos
      rw [hf, reach, if_neg (not_le.mpr hbelow), if_pos (neg_le_neg hle)]
      rfl
  · have hzero : ofRat 0 = .finite false 0 0 := rfl
    rw [rounded_zero, reach_zero, hzero, level_finite, toRat_finite_zero]
  · have hneg : decide (x < 0) = false := decide_eq_false (not_lt.mpr hx.le)
    rw [ofRat, hneg]
    rcases ofQuotient_cases false hx with ⟨m, e, hf, hvalue, hlt⟩ | ⟨hf, hle⟩
    · rw [hf, reach_of_abs_lt (by rw [abs_of_nonneg (rounded_nonneg hx.le)]; exact hlt),
        level_finite, toRat_finite, hvalue]
      simp
    · rw [hf, reach, if_pos hle]
      rfl

/-! ## Settled readings -/

/-- **A reading that rounding leaves as it is**: a whole number, or a double. -/
def IsSettled : Quantity → Prop
  | .real (.finite a m e) => reach (rounded (finite a m e).toRat) = (real (.finite a m e)).level
  | _ => True

/-- A reading that is a double. -/
def isReal : Quantity → Bool
  | .real _ => true
  | .whole _ => false

theorem isSettled_ofRat (x : ℚ) : (real (ofRat x)).IsSettled := by
  have hlevel := level_ofRat x
  cases hx : ofRat x with
  | finite a m e =>
    rw [hx, level_finite] at hlevel
    have hrange : rounded x = (finite a m e).toRat := by
      unfold reach at hlevel
      split_ifs at hlevel
      · exact absurd hlevel (coe_lt_top _).ne
      · exact absurd hlevel WithBot.coe_ne_bot
      · exact_mod_cast hlevel.symm
    change reach (rounded (finite a m e).toRat) = (real (finite a m e)).level
    rw [level_finite, hlevel, ← hrange, rounded_rounded]
  | infinite | notANumber => trivial

theorem isSettled_add (x y : Binary64) : (real (x.add y)).IsSettled := by
  have hzero : ∀ a, (real (.finite a 0 0)).IsSettled := by
    intro a
    change reach (rounded (finite a 0 0).toRat) = (real (finite a 0 0)).level
    rw [level_finite, toRat_finite_zero, rounded_zero, reach_zero]
  cases x with
  | finite a m e =>
    cases y with
    | finite b n f =>
      simp only [Binary64.add]
      split_ifs
      · exact hzero _
      · exact isSettled_ofRat _
    | infinite | notANumber => trivial
  | infinite a =>
    cases y with
    | infinite b =>
      simp only [Binary64.add]
      split_ifs <;> trivial
    | finite | notANumber => trivial
  | notANumber => trivial

theorem add?_real {a b c : Quantity} (h : a.add? b = some c) (hr : a.isReal) : c.isReal := by
  cases a with
  | whole m => cases hr
  | real x =>
    simp only [add?, toReal?, Option.bind_eq_bind, Option.bind_some] at h
    obtain ⟨y, -, hc⟩ := Option.bind_eq_some_iff.mp h
    cases hc
    rfl

/-- **Sums are settled.** -/
theorem isSettled_add? {a b c : Quantity} (h : a.add? b = some c) : c.IsSettled := by
  have hreal : ∀ {x y : Option Binary64}, (do some (real ((← x).add (← y)))) = some c →
      c.IsSettled := by
    intro x y h
    obtain ⟨x, -, h⟩ := Option.bind_eq_some_iff.mp h
    obtain ⟨y, -, h⟩ := Option.bind_eq_some_iff.mp h
    cases h
    exact isSettled_add x y
  cases a with
  | whole m =>
    cases b with
    | whole n => cases h; trivial
    | real y => exact hreal h
  | real x => exact hreal h

/-! ## Ends of lifetimes -/

/-- The level of a sum of two finite doubles. -/
theorem level_add (a b : Bool) (m n : Nat) (e f : Int) :
    (real ((Binary64.finite a m e).add (.finite b n f))).level =
      reach (rounded ((finite a m e).toRat + (finite b n f).toRat)) := by
  simp only [Binary64.add]
  split_ifs with hsum
  · rw [hsum, rounded_zero, reach_zero, level_finite, toRat_finite_zero]
  · exact level_ofRat _

/-- A settled double that is not before a number is not before the double for it either. -/
theorem reach_le_of_isSettled {t : Quantity} (ht : t.IsSettled) (hr : t.isReal) {w : ℚ}
    (h : ((w : WithTop ℚ) : WithBot (WithTop ℚ)) ≤ t.level) : reach (rounded w) ≤ t.level := by
  rcases t with n | (⟨a, m, e⟩ | (_ | _) | _)
  · cases hr
  · rw [level_finite] at h
    have hle : w ≤ (finite a m e).toRat := by exact_mod_cast h
    exact (reach_mono (rounded_mono hle)).trans_eq ht
  · exact le_top
  · exact absurd h (by simp [level])
  · exact absurd h (by simp [level])

/-- **What the clock shows before the end of a lifetime is before the exact end**, if the lifetime
began at a whole number of seconds, or is a double itself. -/
theorem lt_end_of_lt {s t x : Quantity} {n : Int} (ht : t.IsSettled) (hst : s.Le t)
    (hr : s.isReal → t.isReal) (hx : s.add? (.whole n) = some x) (hlt : t.lt x)
    (hn : s.isReal → nearest n = n) : t.level < s.level + (whole n).level := by
  obtain ⟨hnumber, -, hle⟩ := le_iff.mp hst
  have hlevel := (lt_iff.mp hlt).2.2
  cases s with
  | whole m =>
    cases hx
    rwa [level_whole_add] at hlevel
  | real y =>
    simp only [add?, toReal?, Option.bind_eq_bind, Option.bind_some] at hx
    obtain ⟨z, hz, hx⟩ := Option.bind_eq_some_iff.mp hx
    obtain ⟨hz, hfinite⟩ := Option.filter_eq_some_iff.mp hz
    cases hz
    cases hx
    have hvalue : (ofRat (n : ℚ)).toRat = n := hn rfl
    cases hz : ofRat (n : ℚ) with
    | infinite | notANumber => rw [hz] at hfinite; cases hfinite
    | finite b k f =>
      rw [hz] at hlevel hvalue
      rcases y with ⟨a, m, e⟩ | (_ | _) | _
      · rw [level_add, hvalue] at hlevel
        by_contra hnot
        have hsum : ((((finite a m e).toRat + n : ℚ) : WithTop ℚ) : WithBot (WithTop ℚ)) ≤
            t.level := by
          simpa [level] using not_lt.mp hnot
        exact absurd hlevel (not_lt.mpr (reach_le_of_isSettled ht (hr rfl) hsum))
      · exact absurd (hlevel.trans_le hle) (lt_irrefl _)
      · exact absurd hlevel (not_lt.mpr bot_le)
      · cases hnumber

end Quantity

end Gazetteer.Number
