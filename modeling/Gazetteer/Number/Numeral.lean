/-!
# Decimal numerals

* `natText`, `intText`: a number in decimal digits, a minus sign in front of a negative one;
* `digitsValue`: the number that a row of ASCII digits denotes.
-/

namespace Gazetteer.Number

/-- The value of an ASCII digit. -/
def digitValue (c : Char) : Nat := c.toNat - 48

/-- The number that a row of ASCII digits denotes. -/
def digitsValue (cs : List Char) : Nat := cs.foldl (fun n c => 10 * n + digitValue c) 0

/-- The digits of a natural number. -/
def natDigits (n : Nat) : List Char := Nat.toDigits 10 n

/-- A natural number in decimal digits. -/
def natText (n : Nat) : String := String.ofList (natDigits n)

/-- An integer in decimal digits. -/
def intText : Int → String
  | .ofNat n => natText n
  | .negSucc n => String.ofList ('-' :: natDigits (n + 1))

/-- `n` in at least `width` digits, filled up with zeros. -/
def padded (width n : Nat) : String :=
  let digits := natDigits n
  String.ofList (List.replicate (width - digits.length) '0' ++ digits)

end Gazetteer.Number
