import Gazetteer.Number.Binary64
import Gazetteer.Number.Numeral

/-!
# The shortest decimal text of a double

A double is written with the fewest digits that are read back as the same double; of the numerals
with that many digits, the nearest to the double is taken.

* `shortest`: the digits and the power of ten;
* `Binary64.text`: the written form, positional from `0.0001` up to below `10 ^ 16` and with an
  exponent of at least two digits elsewhere.
-/

namespace Gazetteer.Number

/-- The least `k` with `num / den < 10 ^ k`, for a positive quotient. -/
def decimalPoint (num den : Nat) : Int :=
  let k : Int := ((natDigits num).length : Int) - (natDigits den).length
  if num * Nat.pow 10 (-k).toNat < den * Nat.pow 10 k.toNat then k else k + 1

/-- Of the two neighbours of `num / den` on the grid `10 ^ k`, the nearest that is read back as
`x`. -/
def onGrid? (x : Binary64) (num den : Nat) (k : Int) : Option Nat :=
  let a := num * Nat.pow 10 (-k).toNat
  let b := den * Nat.pow 10 k.toNat
  let below := a / b
  let readsBack (n : Nat) : Bool := Binary64.ofDecimal false n k = x
  if readsBack (roundDiv a b) then some (roundDiv a b)
  else if readsBack below then some below
  else if readsBack (below + 1) then some (below + 1)
  else none

/-- The first grid, from `count` digits on, that holds a numeral of `x`; seventeen digits always
suffice. -/
def shortestFrom (x : Binary64) (num den : Nat) (point : Int) : (tries count : Nat) → Nat × Int
  | 0, count =>
    (roundDiv (num * Nat.pow 10 (count - point).toNat) (den * Nat.pow 10 (point - count).toNat),
      point - count)
  | tries + 1, count =>
    match onGrid? x num den (point - count) with
    | some n => (n, point - count)
    | none => shortestFrom x num den point tries (count + 1)

/-- **The shortest numeral** `(digits, exponent)` of the double `mantissa · 2 ^ exponent`. -/
def shortest (mantissa : Nat) (exponent : Int) : Nat × Int :=
  let num := mantissa * Nat.pow 2 exponent.toNat
  let den := Nat.pow 2 (-exponent).toNat
  shortestFrom (.finite false mantissa exponent) num den (decimalPoint num den) 16 1

/-- `digits` without its trailing zeros, if it has another digit. -/
def dropTrailingZeros (digits : List Char) : List Char :=
  (digits.reverse.dropWhile (· = '0')).reverse

/-- The written form of `0.d₁d₂… · 10 ^ point`. -/
def decimalText (digits : List Char) (point : Int) : List Char :=
  let count : Int := digits.length
  if -4 < point ∧ point ≤ 16 then
    if point ≤ 0 then '0' :: '.' :: List.replicate (-point).toNat '0' ++ digits
    else if count ≤ point then
      digits ++ List.replicate (point - count).toNat '0' ++ ['.', '0']
    else digits.take point.toNat ++ '.' :: digits.drop point.toNat
  else
    let fraction := if count ≤ 1 then [] else '.' :: digits.drop 1
    let exponent := (point - 1).natAbs
    digits.take 1 ++ fraction ++ 'e' :: (if point ≤ 0 then '-' else '+')
      :: (padded 2 exponent).toList

/-- **A double in decimal.** -/
def Binary64.text : Binary64 → String
  | .finite negative m e =>
    let body :=
      if m = 0 then ['0', '.', '0']
      else
        let (n, k) := shortest m e
        let digits := natDigits n
        decimalText (dropTrailingZeros digits) (digits.length + k)
    String.ofList (if negative then '-' :: body else body)
  | .infinite negative => if negative then "-inf" else "inf"
  | .notANumber => "nan"

end Gazetteer.Number
