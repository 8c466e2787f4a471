import Gazetteer.Store.Search
import Mathlib.Data.List.Nodup

/-!
# The order of a result is total

Any two countries come one before the other, and they are the same country if each comes before the
other.  Sorting therefore leaves nothing to chance: whatever the order in which the rows are handed
over, the sorted list is the same, for every field and either direction.

* `SortKey.lt_trans`, `SortKey.lt_or_eq_or_lt`: the order of the keys is strict and total;
* `precedes_total`, `precedes_trans`, `id_eq_of_precedes`: so is that of the countries, whose
  numbers settle the ties;
* `ordered_perm`, `pairwise_ordered`: a list in order;
* `eq_ordered`: there is one such list for given rows;
* `ordered_descending`: that of the other direction is its reverse.
-/

namespace Gazetteer.Store

open Search

variable {s : Store} {field : SortField} {direction : SortDirection} {a b c : CountryRow}

/-! ## Keys -/

namespace SortKey

theorem lt_irrefl (k : SortKey) : ¬k.lt k := by
  cases k <;> simp [lt]

theorem lt_trans {k l m : SortKey} (hkl : k.lt l) (hlm : l.lt m) : k.lt m := by
  cases k with
  | text x =>
    cases l with
    | text y =>
      cases m with
      | text z =>
        simpa [lt] using String.lt_trans (by simpa [lt] using hkl) (by simpa [lt] using hlm)
      | time z => rfl
      | absent => cases hlm
    | absent => cases hkl
    | time y =>
      cases m with
      | time z => rfl
      | _ => cases hlm
  | absent =>
    cases m with
    | absent => cases l <;> cases hlm
    | _ => rfl
  | time x =>
    cases l with
    | time y =>
      cases m with
      | time z =>
        simp only [lt, decide_eq_true_eq] at hkl hlm ⊢
        exact Int.lt_trans hkl hlm
      | _ => cases hlm
    | _ => cases hkl

theorem lt_or_eq_or_lt (k l : SortKey) : k.lt l ∨ k = l ∨ l.lt k := by
  cases k with
  | text x =>
    cases l with
    | text y =>
      by_cases hxy : x < y
      · exact Or.inl (by simpa [lt] using hxy)
      · by_cases hyx : y < x
        · exact Or.inr (Or.inr (by simpa [lt] using hyx))
        · exact Or.inr (Or.inl (congrArg text
            (String.le_antisymm (String.not_lt.mp hyx) (String.not_lt.mp hxy))))
    | absent => exact Or.inr (Or.inr rfl)
    | time y => exact Or.inl rfl
  | absent =>
    cases l with
    | absent => exact Or.inr (Or.inl rfl)
    | _ => exact Or.inl rfl
  | time x =>
    cases l with
    | time y =>
      simp only [lt, decide_eq_true_eq, time.injEq]
      exact Int.lt_trichotomy x y
    | _ => exact Or.inr (Or.inr rfl)

end SortKey

/-! ## Countries -/

theorem precedes_iff : s.precedes field a b ↔ (s.sortKey field a).lt (s.sortKey field b) ∨
    s.sortKey field a = s.sortKey field b ∧ a.id ≤ b.id := by
  simp [precedes]

theorem precedes_total (s : Store) (field : SortField) (a b : CountryRow) :
    s.precedes field a b ∨ s.precedes field b a := by
  rw [precedes_iff, precedes_iff]
  rcases SortKey.lt_or_eq_or_lt (s.sortKey field a) (s.sortKey field b) with h | h | h
  · exact Or.inl (Or.inl h)
  · rcases Int.le_total a.id b.id with hid | hid
    · exact Or.inl (Or.inr ⟨h, hid⟩)
    · exact Or.inr (Or.inr ⟨h.symm, hid⟩)
  · exact Or.inr (Or.inl h)

theorem precedes_trans (hab : s.precedes field a b) (hbc : s.precedes field b c) :
    s.precedes field a c := by
  rw [precedes_iff] at *
  rcases hab with hab | ⟨hab, hid⟩
  · rcases hbc with hbc | ⟨hbc, -⟩
    · exact Or.inl (SortKey.lt_trans hab hbc)
    · exact Or.inl (hbc ▸ hab)
  · rcases hbc with hbc | ⟨hbc, hid'⟩
    · exact Or.inl (hab ▸ hbc)
    · exact Or.inr ⟨hab.trans hbc, Int.le_trans hid hid'⟩

/-- **Countries that come before each other have one number.** -/
theorem id_eq_of_precedes (hab : s.precedes field a b) (hba : s.precedes field b a) :
    a.id = b.id := by
  rw [precedes_iff] at hab hba
  rcases hab with hab | ⟨hab, hid⟩
  · rcases hba with hba | ⟨hba, -⟩
    · exact absurd (SortKey.lt_trans hab hba) (SortKey.lt_irrefl _)
    · exact absurd (hba ▸ hab) (SortKey.lt_irrefl _)
  · rcases hba with hba | ⟨-, hid'⟩
    · exact absurd (hab ▸ hba) (SortKey.lt_irrefl _)
    · exact Int.le_antisymm hid hid'

/-! ## Lists in order -/

/-- Whether a country comes before another one, or is the same, in the given direction. -/
def leads (s : Store) (field : SortField) (direction : SortDirection) (a b : CountryRow) : Bool :=
  match direction with
  | .ascending => s.precedes field a b
  | .descending => s.precedes field b a

theorem ordered_eq_mergeSort (s : Store) (field : SortField) (direction : SortDirection)
    (cs : List CountryRow) :
    s.ordered field direction cs = cs.mergeSort (s.leads field direction) := by
  cases direction <;> rfl

theorem leads_total (s : Store) (field : SortField) (direction : SortDirection)
    (a b : CountryRow) : s.leads field direction a b || s.leads field direction b a := by
  rw [Bool.or_eq_true]
  cases direction with
  | ascending => exact s.precedes_total field a b
  | descending => exact s.precedes_total field b a

theorem leads_trans (hab : s.leads field direction a b) (hbc : s.leads field direction b c) :
    s.leads field direction a c := by
  cases direction with
  | ascending => exact precedes_trans hab hbc
  | descending => exact precedes_trans hbc hab

theorem id_eq_of_leads (hab : s.leads field direction a b) (hba : s.leads field direction b a) :
    a.id = b.id := by
  cases direction with
  | ascending => exact id_eq_of_precedes hab hba
  | descending => exact id_eq_of_precedes hba hab

theorem ordered_perm (s : Store) (field : SortField) (direction : SortDirection)
    (cs : List CountryRow) : (s.ordered field direction cs).Perm cs := by
  rw [ordered_eq_mergeSort]
  exact List.mergeSort_perm cs _

@[simp] theorem length_ordered (s : Store) (field : SortField) (direction : SortDirection)
    (cs : List CountryRow) : (s.ordered field direction cs).length = cs.length :=
  (s.ordered_perm field direction cs).length_eq

theorem pairwise_ordered (s : Store) (field : SortField) (direction : SortDirection)
    (cs : List CountryRow) :
    (s.ordered field direction cs).Pairwise fun a b => s.leads field direction a b := by
  rw [ordered_eq_mergeSort]
  apply List.pairwise_mergeSort
  · exact fun _ _ _ hab hbc => leads_trans hab hbc
  · exact s.leads_total field direction

/-- **Rows with different numbers can be put in order in one way only.** -/
theorem eq_ordered {cs ds : List CountryRow} (hids : (cs.map (·.id)).Nodup) (h : ds.Perm cs)
    (hds : ds.Pairwise fun a b => s.leads field direction a b) :
    ds = s.ordered field direction cs := by
  refine List.Perm.eq_of_pairwise (fun a b ha hb hab hba => ?_) hds
    (s.pairwise_ordered field direction cs) (h.trans (s.ordered_perm field direction cs).symm)
  have hb : b ∈ cs := (s.ordered_perm field direction cs).mem_iff.mp hb
  exact List.inj_on_of_nodup_map hids (h.mem_iff.mp ha) hb (id_eq_of_leads hab hba)

/-- So it does not matter in which order they are handed over, -/
theorem ordered_eq_of_perm {cs ds : List CountryRow} (hids : (cs.map (·.id)).Nodup)
    (h : cs.Perm ds) (field : SortField) (direction : SortDirection) :
    s.ordered field direction cs = s.ordered field direction ds :=
  eq_ordered ((h.map _).nodup_iff.mp hids) ((s.ordered_perm field direction cs).trans h)
    (s.pairwise_ordered field direction cs)

/-- and the descending order is the ascending one from the end to the beginning. -/
theorem ordered_descending {cs : List CountryRow} (hids : (cs.map (·.id)).Nodup)
    (field : SortField) :
    s.ordered field .descending cs = (s.ordered field .ascending cs).reverse := by
  refine (eq_ordered hids ?_ ?_).symm
  · exact (List.reverse_perm _).trans (s.ordered_perm field .ascending cs)
  · rw [List.pairwise_reverse]
    exact s.pairwise_ordered field .ascending cs

end Gazetteer.Store
