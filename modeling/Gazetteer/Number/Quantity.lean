import Gazetteer.Number.Binary64

/-!
# Quantities

A quantity, such as a number of seconds, is a whole number of any size or a double.  Whole numbers
are added exactly; as soon as a double is involved, both summands are taken as doubles and the sum
is rounded.  Comparing, on the other hand, is always exact.

* `Quantity.add?`: the sum, unless a whole number is beyond all doubles and would have to be one;
* `Quantity.lt`: the order.
-/

namespace Gazetteer.Number

/-- **A whole number or a double.** -/
inductive Quantity where
  | whole (n : Int)
  | real (x : Binary64)
  deriving DecidableEq, Repr

namespace Quantity

/-- The word for the kind of a quantity. -/
def kindName : Quantity → String
  | .whole _ => "int"
  | .real _ => "float"

/-- The double nearest to a quantity, unless it is beyond all doubles. -/
def toReal? : Quantity → Option Binary64
  | .whole n => some (.ofRat n) |>.filter (·.isFinite)
  | .real x => some x

/-- **The sum of two quantities.** -/
def add? : Quantity → Quantity → Option Quantity
  | .whole m, .whole n => some (.whole (m + n))
  | a, b => do
    let x ← a.toReal?
    let y ← b.toReal?
    some (.real (x.add y))

/-- **Whether a quantity is less than another one.** -/
def lt : Quantity → Quantity → Bool
  | .whole m, .whole n => m < n
  | .real x, .real y => x.lt y
  | .whole m, .real (.finite a e k) => (m : Rat) < (Binary64.finite a e k).toRat
  | .real (.finite a e k), .whole n => (Binary64.finite a e k).toRat < n
  | .whole _, .real (.infinite negative) => !negative
  | .real (.infinite negative), .whole _ => negative
  | .whole _, .real .notANumber | .real .notANumber, .whole _ => false

instance : OfNat Quantity n := ⟨.whole n⟩

end Quantity

end Gazetteer.Number
