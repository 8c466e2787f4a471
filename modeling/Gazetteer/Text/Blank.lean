import Gazetteer.Text.Spans

/-!
# Blank characters and trimming

Names, continents and dialling codes are trimmed before they are checked and stored.  What counts
as blank is every Unicode space and line break together with the four separator controls
`U+001C`–`U+001F`; the zero-width characters are not blank.

* `trim`: a text without the blanks at its two ends;
* `trimBy`: the same for an arbitrary class, on lists;
* `isSpace`: the narrower class that may surround a number.
-/

namespace Gazetteer.Text

/-- The runs of blank characters, ascending. -/
def blankSpans : List (Nat × Nat) :=
  [(0x09, 0x0D), (0x1C, 0x20), (0x85, 0x85), (0xA0, 0xA0), (0x1680, 0x1680), (0x2000, 0x200A),
    (0x2028, 0x2029), (0x202F, 0x202F), (0x205F, 0x205F), (0x3000, 0x3000)]

/-- **A blank character**: one that trimming removes. -/
def isBlank (c : Char) : Bool := inSpans blankSpans c

/-- A space around a number: a blank that is none of the separator controls. -/
def isSpace (c : Char) : Bool := isBlank c && !(0x1C ≤ c.toNat && c.toNat ≤ 0x1F)

/-- `cs` without the elements of the class `p` at its two ends. -/
def trimBy (p : α → Bool) (cs : List α) : List α :=
  ((cs.dropWhile p).reverse.dropWhile p).reverse

/-- **A text without the blanks at its ends.** -/
def trim (s : String) : String := String.ofList (trimBy isBlank s.toList)

/-- A text of blanks only, the empty text among them. -/
def isAllBlank (s : String) : Bool := s.toList.all isBlank

theorem toList_trim (s : String) : (trim s).toList = trimBy isBlank s.toList := by
  simp [trim]

/-- A list whose first and last characters are outside the class is left as it is. -/
theorem trimBy_eq_self {p : α → Bool} {cs : List α} (hf : ∀ c ∈ cs.head?, p c = false)
    (hl : ∀ c ∈ cs.getLast?, p c = false) : trimBy p cs = cs := by
  cases cs with
  | nil => rfl
  | cons c cs =>
    have hc : p c = false := hf c (by simp)
    unfold trimBy
    rw [List.dropWhile_cons_of_neg (by simp [hc])]
    cases h : (c :: cs).reverse with
    | nil => simp at h
    | cons d ds =>
      have hd : p d = false := hl d (by rw [← List.head?_reverse, h]; simp)
      rw [List.dropWhile_cons_of_neg (by simp [hd]), ← h, List.reverse_reverse]

end Gazetteer.Text
