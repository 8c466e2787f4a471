import Gazetteer.Number.Rounding

/-!
# Double-precision numbers

The numbers with a point or an exponent in a JSON text are double-precision floating-point numbers.
They are kept here by their exact value: a finite one is `± mantissa · 2 ^ exponent`.

* `ofQuotient`: the double nearest to a quotient of natural numbers, a tie going to the even
  mantissa, infinite from `2 ^ 1024 - 2 ^ 970` on;
* `ofDecimal`: the same for a decimal numeral;
* `toInt?`, `ceil?`, `toRat`: exact readings of a double;
* `add`, `lt`: the sum of two doubles, rounded, and their order.
-/

namespace Gazetteer.Number

/-- A double-precision number. -/
inductive Binary64 where
  /-- The number `± mantissa · 2 ^ exponent`. -/
  | finite (negative : Bool) (mantissa : Nat) (exponent : Int)
  | infinite (negative : Bool)
  | notANumber
  deriving DecidableEq, Repr

namespace Binary64

/-- Positive zero. -/
def zero : Binary64 := .finite false 0 0

/-- The exponent of the leading bit of `num / den`: `2 ^ e ≤ num / den < 2 ^ (e + 1)`. -/
def leadingExponent (num den : Nat) : Int :=
  let e : Int := (num.log2 : Int) - den.log2
  if num * Nat.pow 2 (-e).toNat < den * Nat.pow 2 e.toNat then e - 1 else e

/-- The exponent of the last bit that a double near `num / den` has. -/
def lastExponent (num den : Nat) : Int := max (leadingExponent num den - 52) (-1074)

/-- **The double nearest to `num / den`.** -/
def ofQuotient (negative : Bool) (num den : Nat) : Binary64 :=
  if num = 0 then .finite negative 0 0
  else
    let e := lastExponent num den
    let m := roundDiv (num * Nat.pow 2 (-e).toNat) (den * Nat.pow 2 e.toNat)
    if m = 0x20000000000000 then
      if 970 < e then .infinite negative else .finite negative 0x10000000000000 (e + 1)
    else if 971 < e then .infinite negative else .finite negative m e

/-- **The double nearest to `digits · 10 ^ exponent`.**  Numerals far outside the range of doubles
are decided by their length alone. -/
def ofDecimal (negative : Bool) (digits : Nat) (exponent : Int) : Binary64 :=
  let length : Int := digits.log2 / 3 + 1
  if digits = 0 then .finite negative 0 0
  else if 310 < exponent then .infinite negative
  else if exponent + length < -330 then .finite negative 0 0
  else ofQuotient negative (digits * Nat.pow 10 exponent.toNat) (Nat.pow 10 (-exponent).toNat)

/-- The exact value of a double, zero where there is none. -/
def toRat : Binary64 → Rat
  | .finite negative m e =>
    let x : Rat := mkRat (m * Nat.pow 2 e.toNat : Nat) (Nat.pow 2 (-e).toNat)
    if negative then -x else x
  | _ => 0

/-- The value of a double that is an integer. -/
def toInt? : Binary64 → Option Int
  | .finite negative m e =>
    if m % Nat.pow 2 (-e).toNat = 0 then
      let n : Int := (m * Nat.pow 2 e.toNat / Nat.pow 2 (-e).toNat : Nat)
      some (if negative then -n else n)
    else none
  | _ => none

/-- The least natural number that is not below a finite double of positive sign. -/
def ceil? : Binary64 → Option Nat
  | .finite false m e => some (ceilDiv (m * Nat.pow 2 e.toNat) (Nat.pow 2 (-e).toNat))
  | _ => none

/-- Neither infinite nor the result of an undefined operation. -/
def isFinite : Binary64 → Bool
  | .finite .. => true
  | _ => false

/-! ## Arithmetic -/

/-- **The double nearest to a rational number.** -/
def ofRat (x : Rat) : Binary64 := ofQuotient (x < 0) x.num.natAbs x.den

/-- The value of the double nearest to a rational number that is in the range of doubles. -/
def nearest (x : Rat) : Rat := (ofRat x).toRat

/-- **The sum of two doubles**, rounded.  A sum of zeros is negative only if both are. -/
def add : Binary64 → Binary64 → Binary64
  | .notANumber, _ | _, .notANumber => .notANumber
  | .infinite a, .infinite b => if a = b then .infinite a else .notANumber
  | .infinite a, .finite .. | .finite .., .infinite a => .infinite a
  | x@(.finite a _ _), y@(.finite b _ _) =>
    let sum := x.toRat + y.toRat
    if sum = 0 then .finite (a && b) 0 0 else ofRat sum

/-- **Whether a double is less than another one**; what is no number is not. -/
def lt : Binary64 → Binary64 → Bool
  | .notANumber, _ | _, .notANumber => false
  | .infinite a, .infinite b => a && !b
  | .infinite a, .finite .. => a
  | .finite .., .infinite b => !b
  | x@(.finite ..), y@(.finite ..) => x.toRat < y.toRat

end Binary64

end Gazetteer.Number
