import Gazetteer.Time.Clock
import Mathlib.Algebra.Order.Monoid.Unbundled.WithTop
import Mathlib.Algebra.Order.Ring.Cast
import Mathlib.Algebra.Order.Ring.Rat

/-!
# The order of clock readings

Readings of the clock are compared exactly, whether they are whole numbers or doubles.  A reading
that is a number has a *level* on the line of the rationals with two ends, and the comparison is
that of the levels (`lt_iff`); what is no number is neither before nor after anything.

* `Le`: a reading that is not after another one, both being numbers;
* `lt_of_le_of_lt`: what is still to come at a reading was so at every reading before it;
* `le_whole`: on whole readings it is the order of the integers.
-/

namespace Gazetteer.Number.Quantity

/-- Not the result of an undefined operation. -/
def isNumber : Quantity → Bool
  | .real .notANumber => false
  | _ => true

/-- **The place of a quantity on the line.**  What is no number has none; the lower end stands
in. -/
def level : Quantity → WithBot (WithTop ℚ)
  | .whole n => ((n : ℚ) : WithTop ℚ)
  | .real (.finite a m e) => ((Binary64.finite a m e).toRat : WithTop ℚ)
  | .real (.infinite false) => ((⊤ : WithTop ℚ) : WithBot (WithTop ℚ))
  | .real (.infinite true) | .real .notANumber => ⊥

theorem level_whole_add (m n : Int) :
    (whole (m + n)).level = (whole m).level + (whole n).level := by
  unfold level
  push_cast
  rfl

theorem coe_lt_top (x : ℚ) : ((x : WithTop ℚ) : WithBot (WithTop ℚ)) < ⊤ :=
  WithBot.coe_lt_coe.mpr (WithTop.coe_lt_top x)

/-- **Quantities are compared by their levels.** -/
theorem lt_iff {a b : Quantity} :
    a.lt b ↔ a.isNumber ∧ b.isNumber ∧ a.level < b.level := by
  rcases a with m | (⟨s, m, e⟩ | (_ | _) | _) <;> rcases b with n | (⟨t, n, f⟩ | (_ | _) | _) <;>
    simp [lt, Binary64.lt, isNumber, level, coe_lt_top]

/-- **`a` is not after `b`**, and both are numbers. -/
def Le (a b : Quantity) : Prop := a.isNumber ∧ b.isNumber ∧ b.lt a = false

instance (a b : Quantity) : Decidable (a.Le b) := inferInstanceAs (Decidable (_ ∧ _ ∧ _))

theorem le_iff {a b : Quantity} : a.Le b ↔ a.isNumber ∧ b.isNumber ∧ a.level ≤ b.level := by
  unfold Le
  rw [← Bool.not_eq_true, lt_iff, ← not_lt]
  tauto

/-- **What is after `b` is after everything that is not after `b`.** -/
theorem lt_of_le_of_lt {a b c : Quantity} (h₁ : a.Le b) (h₂ : b.lt c) : a.lt c := by
  rw [le_iff] at h₁
  rw [lt_iff] at *
  exact ⟨h₁.1, h₂.2.1, h₁.2.2.trans_lt h₂.2.2⟩

theorem le_trans {a b c : Quantity} (h₁ : a.Le b) (h₂ : b.Le c) : a.Le c := by
  rw [le_iff] at *
  exact ⟨h₁.1, h₂.2.1, h₁.2.2.trans h₂.2.2⟩

theorem le_whole {m n : Int} (h : m ≤ n) : (whole m).Le (whole n) := by
  refine ⟨rfl, rfl, ?_⟩
  simpa [lt] using h

end Gazetteer.Number.Quantity
