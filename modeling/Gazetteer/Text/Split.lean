/-!
# Splitting at a separator

`splitAt sep cs` cuts `cs` at every `sep`; `joinWith sep` puts the parts together again.

* `joinWith_splitAt`: splitting loses nothing;
* `splitAt_append`: a separator between two texts is a cut;
* `not_mem_of_mem_splitAt`: no part holds the separator.
-/

namespace Gazetteer.Text

variable {α : Type} [DecidableEq α]

/-- The parts of `cs` between the separators; there is one part more than there are separators. -/
def splitAt (sep : α) : List α → List (List α)
  | [] => [[]]
  | c :: cs =>
    if c = sep then [] :: splitAt sep cs
    else match splitAt sep cs with
      | [] => [[c]]
      | part :: parts => (c :: part) :: parts

/-- The parts with one separator between neighbours. -/
def joinWith {α : Type} (sep : α) : List (List α) → List α
  | [] => []
  | [part] => part
  | part :: parts => part ++ sep :: joinWith sep parts

/-- The text before the first separator, and the text after it if there is a separator. -/
def cutAt (sep : α) : List α → List α × Option (List α)
  | [] => ([], none)
  | c :: cs => if c = sep then ([], some cs) else
    match cutAt sep cs with
    | (before, after) => (c :: before, after)

theorem splitAt_ne_nil (sep : α) (cs : List α) : splitAt sep cs ≠ [] := by
  induction cs with
  | nil => simp [splitAt]
  | cons c cs ih =>
    simp only [splitAt]
    split
    · simp
    · cases h : splitAt sep cs <;> simp

theorem splitAt_cons_of_ne {sep c : α} (h : c ≠ sep) (cs : List α) :
    ∃ part parts, splitAt sep cs = part :: parts ∧
      splitAt sep (c :: cs) = (c :: part) :: parts := by
  cases hs : splitAt sep cs with
  | nil => exact absurd hs (splitAt_ne_nil sep cs)
  | cons part parts => exact ⟨part, parts, rfl, by simp [splitAt, h, hs]⟩

/-- **A separator between two texts is a cut.** -/
theorem splitAt_append (sep : α) (xs ys : List α) :
    splitAt sep (xs ++ sep :: ys) = splitAt sep xs ++ splitAt sep ys := by
  induction xs with
  | nil => simp [splitAt]
  | cons c xs ih =>
    by_cases h : c = sep
    · simp [splitAt, h, ih]
    · obtain ⟨part, parts, hp, hc⟩ := splitAt_cons_of_ne h xs
      rw [hc]
      simp [splitAt, h, ih, hp]

/-- No part holds the separator. -/
theorem not_mem_of_mem_splitAt {sep : α} {cs part : List α} (h : part ∈ splitAt sep cs) :
    sep ∉ part := by
  induction cs generalizing part with
  | nil => simp_all [splitAt]
  | cons c cs ih =>
    by_cases hc : c = sep
    · simp only [splitAt, hc, if_true, List.mem_cons] at h
      rcases h with rfl | h
      · simp
      · exact ih h
    · obtain ⟨p, ps, hp, he⟩ := splitAt_cons_of_ne hc cs
      rw [he, List.mem_cons] at h
      rcases h with rfl | h
      · simp only [List.mem_cons, not_or]
        exact ⟨fun e => hc e.symm, ih (by simp [hp])⟩
      · exact ih (by simp [hp, h])

/-- **Splitting loses nothing.** -/
theorem joinWith_splitAt (sep : α) (cs : List α) : joinWith sep (splitAt sep cs) = cs := by
  induction cs with
  | nil => rfl
  | cons c cs ih =>
    obtain ⟨part, parts, hp⟩ := List.exists_cons_of_ne_nil (splitAt_ne_nil sep cs)
    rw [hp] at ih
    by_cases h : c = sep
    · simp [splitAt, h, hp, joinWith, ih]
    · cases parts with
      | nil => simpa [splitAt, h, hp, joinWith] using ih
      | cons q qs => simpa [splitAt, h, hp, joinWith] using ih

end Gazetteer.Text
