import Gazetteer.Proofs.Registry.Key
import Gazetteer.Proofs.Store.Paging

/-!
# Descending is the mirror of ascending

The whole result of a search, read page after page, is in the order of the column that it is sorted
by: texts by their code points, dates as they follow each other, countries without a primary code
before all others, and countries that are equal in it by their numbers.  The descending result is
the ascending one from its end to its beginning, such ties and absent codes included.

* `codePoints`, `lt_iff_codePoints`: texts are compared by code points;
* `Below`, `ComesBefore`: the order of a column, and that of the countries;
* `comesBefore_iff_not`: of two countries one comes first;
* `descending_mirrors`: the two directions of a result.
-/

namespace Gazetteer

open Search

/-- A request for the same result in the given direction. -/
def Search.Request.inDirection (r : Search.Request) (direction : SortDirection) : Search.Request :=
  { r with direction }

namespace Store

variable {s : Store} {r : Request} {field : SortField} {a b : CountryRow}

/-! ## Columns -/

/-- The code points of a text. -/
def codePoints (s : String) : List Nat := s.toList.map Char.toNat

/-- **Texts are compared by their code points.** -/
theorem lt_iff_codePoints {x y : String} : x < y ↔ codePoints x < codePoints y := by
  change x.toList < y.toList ↔ x.toList.map Char.toNat < y.toList.map Char.toNat
  generalize x.toList = cs, y.toList = ds
  induction cs generalizing ds with
  | nil => cases ds <;> simp
  | cons c cs ih =>
    cases ds with
    | nil => simp
    | cons d ds =>
      have hlt : c < d ↔ c.toNat < d.toNat := UInt32.lt_iff_toNat_lt
      rw [List.map_cons, List.map_cons, List.cons_lt_cons_iff, List.cons_lt_cons_iff, ih, hlt,
        Char.toNat_inj]

/-- **Whether a country is below another one in a column.**  Of primary codes, an absent one is
below all others. -/
def Below (s : Store) : SortField → CountryRow → CountryRow → Prop
  | .name, a, b => codePoints a.name < codePoints b.name
  | .continent, a, b => codePoints a.continent < codePoints b.continent
  | .countryCode, a, b =>
    (s.primaryCodeOf? a.id).map codePoints < (s.primaryCodeOf? b.id).map codePoints
  | .iso2, a, b => codePoints a.iso2 < codePoints b.iso2
  | .iso3, a, b => codePoints a.iso3 < codePoints b.iso3
  | .created, a, b => a.created < b.created
  | .modified, a, b => a.modified < b.modified

theorem SortKey.text_lt_text {x y : String} :
    (SortKey.text x).lt (.text y) ↔ codePoints x < codePoints y := by
  rw [lt, decide_eq_true_eq, lt_iff_codePoints]

theorem lt_sortKey_iff : (s.sortKey field a).lt (s.sortKey field b) ↔ s.Below field a b := by
  cases field with
  | countryCode =>
    simp only [sortKey, Below]
    cases s.primaryCodeOf? a.id with
    | none => cases s.primaryCodeOf? b.id <;> simp [SortKey.lt]
    | some x =>
      cases s.primaryCodeOf? b.id with
      | none => simp [SortKey.lt]
      | some y => exact SortKey.text_lt_text.trans Option.some_lt_some.symm
  | created => simp [sortKey, Below, SortKey.lt]
  | modified => simp [sortKey, Below, SortKey.lt]
  | _ => exact SortKey.text_lt_text

/-! ## Countries -/

/-- **Whether a country comes before another one**: it is below it, or it is not above it and has
the smaller number. -/
def ComesBefore (s : Store) (field : SortField) (a b : CountryRow) : Prop :=
  s.Below field a b ∨ ¬s.Below field b a ∧ a.id < b.id

theorem comesBefore_iff (hne : a.id ≠ b.id) :
    s.ComesBefore field a b ↔ s.precedes field a b := by
  rw [ComesBefore, ← lt_sortKey_iff, ← lt_sortKey_iff, precedes_iff]
  refine or_congr_right' fun hlt => ?_
  constructor
  · rintro ⟨hnot, hid⟩
    rcases SortKey.lt_or_eq_or_lt (s.sortKey field a) (s.sortKey field b) with h | h | h
    · exact absurd h hlt
    · exact ⟨h, Int.le_of_lt hid⟩
    · exact absurd h hnot
  · rintro ⟨heq, hid⟩
    exact ⟨heq ▸ SortKey.lt_irrefl _, by omega⟩

/-- **Of two countries one comes first**, and the other does not. -/
theorem comesBefore_iff_not (hne : a.id ≠ b.id) :
    s.ComesBefore field a b ↔ ¬s.ComesBefore field b a := by
  rw [comesBefore_iff hne, comesBefore_iff hne.symm]
  constructor
  · exact fun hab hba => hne (id_eq_of_precedes hab hba)
  · exact fun hba => (s.precedes_total field a b).resolve_right hba

/-! ## Results -/

theorem pairwise_comesBefore (h : (s.countries.map (·.id)).Nodup) :
    (s.result (r.inDirection .ascending)).Pairwise (s.ComesBefore r.sortBy) := by
  have hperm := s.ordered_perm r.sortBy .ascending (s.found r)
  have hids := List.pairwise_map.mp ((hperm.map _).nodup_iff.mpr (nodup_found h r))
  have hleads := s.pairwise_ordered r.sortBy .ascending (s.found r)
  exact (hids.and hleads).imp fun hab => (comesBefore_iff hab.1).mpr hab.2

/-- **The ascending result of a search is in order, and the descending one is its reverse**, read
page after page.  The order is strict and total on countries with different numbers. -/
theorem descending_mirrors (h : (s.countries.map (·.id)).Nodup) {v : Json}
    (hr : Request.read v = .ok r) :
    s.Partition (r.inDirection .ascending) (s.result (r.inDirection .ascending)) ∧
    s.readThrough (r.inDirection .ascending) =
      (s.result (r.inDirection .ascending)).map s.detail ∧
    (s.result (r.inDirection .ascending)).Pairwise (s.ComesBefore r.sortBy) ∧
    (∀ a b, a.id ≠ b.id → (s.ComesBefore r.sortBy a b ↔ ¬s.ComesBefore r.sortBy b a)) ∧
    s.result (r.inDirection .descending) = (s.result (r.inDirection .ascending)).reverse ∧
    s.readThrough (r.inDirection .descending) =
      (s.readThrough (r.inDirection .ascending)).reverse := by
  have hs := Request.one_le_pageSize hr
  have hmirror : s.result (r.inDirection .descending) =
      (s.result (r.inDirection .ascending)).reverse :=
    ordered_descending (nodup_found h r) r.sortBy
  have hup := readThrough_eq (r := r.inDirection .ascending) h hs
  have hdown := readThrough_eq (r := r.inDirection .descending) h hs
  refine ⟨partition_of_nodup h hs, hup, pairwise_comesBefore h,
    fun a b hne => comesBefore_iff_not hne, hmirror, ?_⟩
  rw [hdown, hmirror, hup, List.map_reverse]

/-- Four countries, of which the first and the last have no primary code and the others have the
same one. -/
def unranked : Store :=
  ⟨[⟨1, "B", "X", "AA", "AAA", 0, 0⟩, ⟨2, "A", "X", "BB", "BBB", 0, 0⟩,
      ⟨3, "C", "X", "CC", "CCC", 0, 0⟩, ⟨4, "D", "X", "DD", "DDD", 0, 0⟩],
    [⟨1, 2, "1", true, 0, 0⟩, ⟨2, 3, "1", true, 0, 0⟩, ⟨3, 4, "0", false, 0, 0⟩]⟩

/-- In descending order those without a primary code come last, and ties are turned round. -/
theorem mirrors_unranked :
    let request : Request := ⟨none, none, none, none, none, 1, 3, .countryCode, .descending⟩
    Request.read (.object [("pageSize", .int 3), ("sortBy", .text "CountryCode"),
      ("sortDirection", .text "desc")]) = .ok request ∧
    (unranked.readThrough request).map (·.id) = [3, 2, 4, 1] := by
  intro request
  have hr : Request.read (.object [("pageSize", .int 3), ("sortBy", .text "CountryCode"),
    ("sortDirection", .text "desc")]) = .ok request := by rfl
  obtain ⟨-, hup, -, -, -, hmirror⟩ := descending_mirrors (s := unranked) (by decide) hr
  have hresult : [⟨1, "B", "X", "AA", "AAA", 0, 0⟩, ⟨4, "D", "X", "DD", "DDD", 0, 0⟩,
      ⟨2, "A", "X", "BB", "BBB", 0, 0⟩, ⟨3, "C", "X", "CC", "CCC", 0, 0⟩] =
      unranked.result (request.inDirection .ascending) :=
    eq_ordered (by decide) (by decide) (by decide +kernel)
  refine ⟨hr, ?_⟩
  change (unranked.readThrough (request.inDirection .descending)).map (·.id) = _
  rw [hmirror, hup, ← hresult]
  rfl

end Store

end Gazetteer
