/-!
# Domain labels in ASCII

A domain label with characters outside ASCII is written as `xn--` and a row of letters and digits:
first its ASCII characters, then, after a hyphen, the others with their places, each step a number
in a variable-length base-36 notation.

* `encodeLabel`: the ASCII form of a label;
* `decode?`: the text that letters and digits stand for, if they stand for one.
-/

namespace Gazetteer.Punycode

/-- The digit for `n < 36`. -/
def digit (n : Nat) : Char := if n < 26 then Char.ofNat (97 + n) else Char.ofNat (22 + n)

/-- The bias after a step of size `delta`, of `points` characters so far. -/
def adapt (delta points : Nat) (first : Bool) : Nat :=
  let delta := if first then delta / 700 else delta / 2
  let delta := delta + delta / points
  go delta.log2 delta 0
where
  /-- Divides until the step is small. -/
  go : Nat → Nat → Nat → Nat
    | 0, delta, k => k + 36 * delta / (delta + 38)
    | fuel + 1, delta, k =>
      if 455 < delta then go fuel (delta / 35) (k + 36) else k + 36 * delta / (delta + 38)

/-- The threshold of the `k`-th digit. -/
def threshold (k bias : Nat) : Nat :=
  if k ≤ bias then 1 else if bias + 26 ≤ k then 26 else k - bias

/-- The digits of a number, least significant first; the number bounds their count. -/
def variableLength (bias : Nat) : (fuel k n : Nat) → List Char
  | 0, _, n => [digit n]
  | fuel + 1, k, n =>
    let t := threshold k bias
    if n < t then [digit n]
    else digit (t + (n - t) % (36 - t)) :: variableLength bias fuel (k + 36) ((n - t) / (36 - t))

/-- What has been written while the places of one character are visited. -/
structure State where
  delta : Nat
  bias : Nat
  handled : Nat
  basic : Nat
  written : List Char

/-- One visit: the character `c` of the label while all characters below `n` are in place. -/
def visit (n : Nat) (s : State) (c : Nat) : State :=
  if c < n then { s with delta := s.delta + 1 }
  else if c = n then
    { s with
      delta := 0
      bias := adapt s.delta (s.handled + 1) (s.handled = s.basic)
      handled := s.handled + 1
      written := s.written ++ variableLength s.bias s.delta 36 s.delta }
  else s

/-- The ASCII form of a label that holds characters outside ASCII. -/
def encode (codes : List Nat) : List Char :=
  let basic := codes.filter (· < 128)
  let others := ((codes.filter (128 ≤ ·)).mergeSort).eraseDups
  let start : State :=
    ⟨0, 72, basic.length, basic.length,
      basic.map Char.ofNat ++ if basic.isEmpty then [] else ['-']⟩
  let (_, s) := others.foldl (fun (n, s) m =>
    let s := { s with delta := s.delta + (m - n) * (s.handled + 1) }
    let s := codes.foldl (visit m) s
    (m + 1, { s with delta := s.delta + 1 })) (128, start)
  s.written

/-- **The ASCII form of a label.** -/
def encodeLabel (label : List Char) : List Char :=
  if label.all fun c => c.toNat < 128 then label
  else "xn--".toList ++ encode (label.map Char.toNat)

/-! ## Decoding -/

/-- The value of a digit. -/
def digitValue? (c : Char) : Option Nat :=
  if 'a' ≤ c ∧ c ≤ 'z' then some (c.toNat - 97)
  else if 'A' ≤ c ∧ c ≤ 'Z' then some (c.toNat - 65)
  else if '0' ≤ c ∧ c ≤ '9' then some (c.toNat - 22)
  else none

/-- What has been read while a number is under way. -/
structure Decoding where
  read : List Nat
  /-- The code point that is read next, unless the place runs past the end. -/
  point : Nat
  /-- The place of the next code point, counted on past the end. -/
  place : Nat
  /-- The place before the number that is under way. -/
  origin : Nat
  bias : Nat
  /-- The position of the next digit of the number, in steps of the base. -/
  k : Nat
  /-- What the next digit of the number is worth. -/
  weight : Nat

namespace Decoding

/-- Puts the code point whose number is complete into its place, if there is such a code point. -/
def insert? (s : Decoding) : Option Decoding :=
  let count := s.read.length + 1
  let point := s.point + s.place / count
  let place := s.place % count
  if point < 0xD800 ∨ 0xDFFF < point ∧ point < 0x110000 then
    some { read := s.read.take place ++ point :: s.read.drop place
           point, place := place + 1, origin := place + 1
           bias := adapt (s.place - s.origin) count (s.origin = 0)
           k := 36, weight := 1 }
  else none

/-- One more digit. -/
def step? (s : Decoding) (c : Char) : Option Decoding := do
  let n ← digitValue? c
  let t := threshold s.k s.bias
  let s := { s with place := s.place + n * s.weight }
  if n < t then s.insert? else some { s with k := s.k + 36, weight := s.weight * (36 - t) }

end Decoding

/-- The characters before the last hyphen, and those after it; a hyphen at the front does not
count. -/
def cutAtLastHyphen (cs : List Char) : List Char × List Char :=
  let after := (cs.reverse.takeWhile (· ≠ '-')).reverse
  match cs.length - after.length with
  | 0 | 1 => ([], cs)
  | n + 1 => (cs.take n, after)

/-- **The text that letters and digits stand for.**  The last number has to be complete. -/
def decode? (cs : List Char) : Option (List Char) := do
  let (basic, digits) := cutAtLastHyphen cs
  let s ← digits.foldlM Decoding.step? ⟨basic.map Char.toNat, 128, 0, 0, 72, 36, 1⟩
  if s.k = 36 then some (s.read.map Char.ofNat) else none

end Gazetteer.Punycode
