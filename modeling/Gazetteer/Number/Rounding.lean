/-!
# Rounding a quotient

* `roundDiv num den`: the natural number nearest to `num / den`, a half going to the even one;
* `ceilDiv num den`: the least natural number that is not below `num / den`.

`roundDiv_mul`: a multiple is rounded to itself.
-/

namespace Gazetteer.Number

/-- **The natural number nearest to `num / den`**, of two the even one. -/
def roundDiv (num den : Nat) : Nat :=
  let q := num / den
  let r := num % den
  if 2 * r < den then q
  else if den < 2 * r then q + 1
  else if q % 2 = 0 then q else q + 1

/-- The quotient rounded up. -/
def ceilDiv (num den : Nat) : Nat := (num + den - 1) / den

/-- The integer nearest to a rational number, of two the even one. -/
def roundRat (x : Rat) : Int :=
  if x < 0 then -(roundDiv x.num.natAbs x.den : Int) else roundDiv x.num.natAbs x.den

theorem roundDiv_mul (n : Nat) {den : Nat} (h : 0 < den) : roundDiv (n * den) den = n := by
  have h₁ : n * den / den = n := Nat.mul_div_cancel n h
  have h₂ : n * den % den = 0 := Nat.mul_mod_left n den
  simp [roundDiv, h₁, h₂, h]

/-- The rounded quotient is one of the two neighbours of the quotient. -/
theorem roundDiv_eq_or (num den : Nat) :
    roundDiv num den = num / den ∨ roundDiv num den = num / den + 1 := by
  unfold roundDiv
  simp only
  split
  · exact Or.inl rfl
  · split
    · exact Or.inr rfl
    · split
      · exact Or.inl rfl
      · exact Or.inr rfl

end Gazetteer.Number
