/-!
# Spans of code points

A character class is written as a list of spans, each given by its first and its last code point.
`inSpans` decides membership; `inSpans_iff` says what it decides.
-/

namespace Gazetteer.Text

/-- Whether the code point of `c` lies in one of the spans, whose ends belong to them. -/
def inSpans (spans : List (Nat × Nat)) (c : Char) : Bool :=
  spans.any fun s => s.1 ≤ c.toNat && c.toNat ≤ s.2

theorem inSpans_iff {spans : List (Nat × Nat)} {c : Char} :
    inSpans spans c ↔ ∃ s ∈ spans, s.1 ≤ c.toNat ∧ c.toNat ≤ s.2 := by
  simp [inSpans]

theorem inSpans_of_mem {spans : List (Nat × Nat)} {c : Char} {s : Nat × Nat} (h : s ∈ spans)
    (h₁ : s.1 ≤ c.toNat) (h₂ : c.toNat ≤ s.2) : inSpans spans c :=
  inSpans_iff.mpr ⟨s, h, h₁, h₂⟩

end Gazetteer.Text
