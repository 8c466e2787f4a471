/-!
# Characters in wide units

A text may be written in units of sixteen or thirty-two bits, each as two or four octets.  In the
narrower units a character beyond `U+FFFF` takes two of them, the halves of a surrogate pair.

* `decode16?`, `decode32?`: the text that octets are, if they are one.
-/

namespace Gazetteer.Text

/-- Which octet of a unit comes first. -/
inductive ByteOrder where
  /-- The octet of the highest bits. -/
  | big
  /-- The octet of the lowest bits. -/
  | little
  deriving DecidableEq, Repr

namespace Wide

/-- The unit that octets make. -/
def unit (order : ByteOrder) (octets : List Nat) : Nat :=
  let octets := match order with
    | .big => octets
    | .little => octets.reverse
  octets.foldl (fun n octet => 256 * n + octet) 0

/-- The units of sixteen bits that octets make, none of them left over. -/
def units16? (order : ByteOrder) : List Nat → Option (List Nat)
  | [] => some []
  | a :: b :: rest => (units16? order rest).map (unit order [a, b] :: ·)
  | [_] => none

/-- The units of thirty-two bits that octets make, none of them left over. -/
def units32? (order : ByteOrder) : List Nat → Option (List Nat)
  | [] => some []
  | a :: b :: c :: d :: rest => (units32? order rest).map (unit order [a, b, c, d] :: ·)
  | _ => none

/-- The character with a code point, if there is one. -/
def char? (point : Nat) : Option Char :=
  if point < 0xD800 ∨ 0xDFFF < point ∧ point < 0x110000 then some (Char.ofNat point) else none

/-- The code points that units of sixteen bits denote. -/
def points : List Nat → List Nat
  | high :: low :: rest =>
    if 0xD800 ≤ high ∧ high ≤ 0xDBFF ∧ 0xDC00 ≤ low ∧ low ≤ 0xDFFF then
      (0x10000 + (high - 0xD800) * 0x400 + (low - 0xDC00)) :: points rest
    else high :: points (low :: rest)
  | rest => rest

/-- **The text that octets are in units of sixteen bits.** -/
def decode16? (order : ByteOrder) (octets : List Nat) : Option (List Char) := do
  (points (← units16? order octets)).mapM char?

/-- **The text that octets are in units of thirty-two bits.** -/
def decode32? (order : ByteOrder) (octets : List Nat) : Option (List Char) := do
  (← units32? order octets).mapM char?

end Wide

end Gazetteer.Text
