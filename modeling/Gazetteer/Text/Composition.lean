import Gazetteer.Text.CodeTable
import Gazetteer.Text.CompositionTable

/-!
# Canonical composition

The same text can be written with composed characters or with letters and marks that follow them.
It is brought into one form by decomposing everything, putting the marks of a letter in order, and
composing what can be composed.

* `decompose`, `inOrder`, `compose`: the three steps;
* `composed`: a text in its composed form.
-/

namespace Gazetteer.Text

/-! ## Decomposing -/

def composites : List Mapping := CodeTable.mappings compositeRows

def singletons : List Mapping := CodeTable.mappings singletonRows

/-- The first of the syllables of Hangul, which lie side by side: for every leading consonant there
are 21 vowels, and for every vowel 28 endings, the first of which is none. -/
def firstSyllable : Nat := 0xAC00

def leadingBase : Nat := 0x1100

def vowelBase : Nat := 0x1161

def endingBase : Nat := 0x11A7

/-- The parts of a syllable of Hangul. -/
def syllableParts? (point : Nat) : Option (List Nat) :=
  if firstSyllable ≤ point ∧ point < firstSyllable + 11172 then
    let n := point - firstSyllable
    let parts := [leadingBase + n / 588, vowelBase + n % 588 / 28]
    some (if n % 28 = 0 then parts else parts ++ [endingBase + n % 28])
  else none

/-- The ideograph that another one stands for. -/
def ideograph? (point : Nat) : Option (List Nat) :=
  ideographRows.findSome? fun (first, row) =>
    if first ≤ point then (row.toList[point - first]?).map fun c => [c.toNat] else none

/-- What a code point is decomposed into, one step of the way. -/
def parts? (point : Nat) : Option (List Nat) :=
  if point < 0xC0 then none
  else
    (syllableParts? point).orElse fun () =>
      (composites.findSome? (·.image? point)).orElse fun () =>
        (singletons.findSome? (·.image? point)).orElse fun () => ideograph? point

/-- The parts of a code point, their parts, and so on for some steps. -/
def partsWithin : (steps : Nat) → (point : Nat) → List Nat
  | 0, point => [point]
  | steps + 1, point =>
    match parts? point with
    | some parts => parts.flatMap (partsWithin steps)
    | none => [point]

/-- **Code points with nothing left to decompose.**  No decomposition takes more than four steps. -/
def decompose (points : List Nat) : List Nat := points.flatMap (partsWithin 4)

/-! ## Order -/

/-- The classes and the spans of their code points. -/
def classSpans : List (Nat × List (Nat × Nat)) :=
  classRows.map fun (n, rows) => (n, CodeTable.spans rows)

/-- Whether a code point lies in one of the spans. -/
def isWithin (spans : List (Nat × Nat)) (point : Nat) : Bool :=
  spans.any fun (first, last) => first ≤ point && point ≤ last

/-- The class of a code point: zero, unless it is a mark that can change places with others. -/
def combiningClass (point : Nat) : Nat :=
  if point < 0x300 then 0
  else ((classSpans.find? fun (_, spans) => isWithin spans point).map (·.1)).getD 0

/-- Puts a code point in front of code points in order, behind the marks of lower classes if it is
itself a mark. -/
def insertInOrder (point : Nat) : List Nat → List Nat
  | [] => [point]
  | other :: rest =>
    if combiningClass other ≠ 0 ∧ combiningClass other < combiningClass point then
      other :: insertInOrder point rest
    else point :: other :: rest

/-- **Code points with the marks in order of their classes**; marks of one class stay in place. -/
def inOrder (points : List Nat) : List Nat := points.foldr insertInOrder []

/-! ## Composing -/

/-- The syllable of Hangul with a further part. -/
def syllable? (a b : Nat) : Option Nat :=
  if leadingBase ≤ a ∧ a < leadingBase + 19 ∧ vowelBase ≤ b ∧ b < vowelBase + 21 then
    some (firstSyllable + ((a - leadingBase) * 21 + (b - vowelBase)) * 28)
  else if firstSyllable ≤ a ∧ a < firstSyllable + 11172 ∧ (a - firstSyllable) % 28 = 0
      ∧ endingBase < b ∧ b < endingBase + 28 then some (a + (b - endingBase))
  else none

/-- The character that two others are composed to. -/
def pair? (a b : Nat) : Option Nat :=
  if b < 0x300 then none
  else (syllable? a b).orElse fun () => composites.findSome? (·.source? a b)

/-- Composes code points in order that follow a letter and some of its marks, the last of them
first, of which the last one has the given class.  A mark is composed with the letter unless a mark
of the same class stands between them. -/
def composeFrom (letter : Nat) (marks : List Nat) (last : Nat) : List Nat → List Nat
  | [] => letter :: marks.reverse
  | point :: rest =>
    let n := combiningClass point
    match if marks.isEmpty || last < n then pair? letter point else none with
    | some point => composeFrom point marks last rest
    | none =>
      if n = 0 then letter :: marks.reverse ++ composeFrom point [] 0 rest
      else composeFrom letter (point :: marks) n rest

/-- **Code points with everything composed that can be composed.** -/
def compose : List Nat → List Nat
  | [] => []
  | point :: rest => composeFrom point [] 0 rest

/-- **A text in its composed form.** -/
def composed (cs : List Char) : List Char :=
  (compose (inOrder (decompose (cs.map Char.toNat)))).map Char.ofNat

end Gazetteer.Text
