import Gazetteer.Proofs.Registry.Key
import Gazetteer.Proofs.Registry.Tables
import Gazetteer.Proofs.Store.Frame
import Gazetteer.Proofs.Store.Paging

/-!
# The primary code that is shown is the one that is sorted by

An answer shows the first marked row among the dialling codes of a country, as they come in the
table; a search sorts by the marked row with the least number.  The two agree because the table is
in the order of its numbers: a write puts its rows in at the end, under numbers greater than all
that are left, also where it uses the number of a row again that it has struck out.

* `Ascending`: the table is in order; `Written.ascending`, `Registry.Reachable.ascending`: it stays
  so, whatever is written;
* `find?_eq_some_iff`: the first row is the one with the least number;
* `primaryCode?_codesOf`, `primaryCodeOf?_eq`: both ways to the primary code;
* `ShowsCodes`: the dialling codes of a country in an answer;
* `Registry.primaryCode_agrees`: answers and results after any run; `primaryCode_agrees_ranked`:
  after one with several primary codes, and none.
-/

namespace Gazetteer

namespace Store

open Search

variable {s t : Store} {codes rows : List CodeRow} {c a b : CountryRow} {k : CodeRow}
  {now : Instant}

/-! ## The table of dialling codes is in order -/

/-- **Every row has a greater number than those before it.** -/
def Ascending (codes : List CodeRow) : Prop := codes.Pairwise fun k l => k.id < l.id

/-- Rows from the next number on go to the end. -/
theorem Ascending.append_codeRows (h : Ascending codes) {countryId : Int} {isPrimary : Bool}
    {values : List (Option String)}
    (hrows : codeRows (nextId (codes.map (·.id))) countryId now isPrimary values = .ok rows) :
    Ascending (codes ++ rows) := by
  obtain ⟨texts, rfl⟩ := exists_map_some hrows
  obtain rfl := Except.ok.inj ((codeRows_map_some _ _ _ _ _).symm.trans hrows)
  refine List.pairwise_append.mpr
    ⟨h, List.pairwise_map.mp (pairwise_id_rowsFrom _ _ _ _ _), fun k hk l hl => ?_⟩
  exact Int.lt_of_lt_of_le (lt_nextId (List.mem_map_of_mem hk)) (mem_rowsFrom hl).2.2.2

theorem ascending_create {c : Columns} {row : CountryRow} (h : Ascending s.codes)
    (hs : s.create now c = .ok (row, t)) : Ascending t.codes := by
  obtain ⟨row', -, hs⟩ := bind_eq_ok_iff.mp hs
  obtain ⟨rows, hrows, hs⟩ := bind_eq_ok_iff.mp hs
  cases hs
  exact h.append_codeRows hrows

/-- New rows may have numbers of rows that were struck out, which are no longer in the way. -/
theorem ascending_replace {c : Columns} {row : CountryRow} {id : Int} (h : Ascending s.codes)
    (hs : s.replace now id c = .ok (some (row, t))) : Ascending t.codes := by
  obtain ⟨_, -, hs⟩ := bind_eq_ok_iff.mp hs
  cases hold : s.country? id with
  | none => rw [hold] at hs; cases hs
  | some old =>
    rw [hold] at hs
    obtain ⟨row', -, hs⟩ := bind_eq_ok_iff.mp hs
    obtain ⟨rows, hrows, hs⟩ := bind_eq_ok_iff.mp hs
    cases hs
    have hothers : Ascending (s.codes.filter (·.countryId ≠ id)) := h.filter _
    exact hothers.append_codeRows hrows

theorem ascending_addCode {countryId : Option Int} {code : Option String} {isPrimary : Bool}
    (h : Ascending s.codes) (hs : s.addCode now countryId code isPrimary = .ok (k, t)) :
    Ascending t.codes := by
  obtain ⟨rfl, -, hid⟩ := addCode_eq_ok hs
  refine List.pairwise_append.mpr ⟨h, List.pairwise_singleton _ _, fun l hl m hm => ?_⟩
  rw [List.mem_singleton.mp hm, hid]
  exact lt_nextId (List.mem_map_of_mem hl)

/-- **Every write leaves the dialling codes in order.** -/
theorem Written.ascending (hw : s.Written t) (h : Ascending s.codes) : Ascending t.codes := by
  cases hw with
  | created hs => exact ascending_create h hs
  | replaced hs => exact ascending_replace h hs
  | removed hs =>
    rw [remove_eq_ok hs]
    exact h.filter _
  | coded hs => exact ascending_addCode h hs

/-! ## The first row and the least number -/

/-- **The first row of a kind is the one with the least number.** -/
theorem find?_eq_some_iff {p : CodeRow → Bool} (h : Ascending codes) :
    codes.find? p = some k ↔ k ∈ codes ∧ p k ∧ ∀ l ∈ codes, p l → k.id ≤ l.id := by
  induction codes with
  | nil => simp
  | cons first codes ih =>
    obtain ⟨hfirst, h⟩ := List.pairwise_cons.mp h
    by_cases hp : p first
    · rw [List.find?_cons_of_pos hp, Option.some_inj]
      constructor
      · rintro rfl
        refine ⟨List.mem_cons_self, hp, fun l hl _ => ?_⟩
        rcases List.mem_cons.mp hl with rfl | hl
        · exact Int.le_refl _
        · exact Int.le_of_lt (hfirst l hl)
      · rintro ⟨hk, -, hleast⟩
        rcases List.mem_cons.mp hk with rfl | hk
        · rfl
        · have hle := hleast first List.mem_cons_self hp
          have hlt := hfirst k hk
          omega
    · rw [List.find?_cons_of_neg hp, ih h]
      constructor
      · rintro ⟨hk, hpk, hleast⟩
        refine ⟨List.mem_cons_of_mem _ hk, hpk, fun l hl hpl => ?_⟩
        rcases List.mem_cons.mp hl with rfl | hl
        · exact absurd hpl hp
        · exact hleast l hl hpl
      · rintro ⟨hk, hpk, hleast⟩
        refine ⟨?_, hpk, fun l hl => hleast l (List.mem_cons_of_mem _ hl)⟩
        rcases List.mem_cons.mp hk with rfl | hk
        · exact absurd hpk hp
        · exact hk

/-- The first marked row of a country. -/
def primaryRow? (s : Store) (id : Int) : Option CodeRow :=
  s.codes.find? fun k => k.countryId = id && k.isPrimary

/-- The first of the dialling codes of a country that is marked, -/
theorem primaryCode?_codesOf (s : Store) (id : Int) :
    primaryCode? (s.codesOf id) = (s.primaryRow? id).map (·.code) := by
  rw [primaryCode?, codesOf, List.find?_filter, primaryRow?]
  simp only [decide_eq_true_eq, Bool.decide_and, Bool.decide_eq_true]

/-- **and the marked row with the least number** are the same. -/
theorem primaryCodeOf?_eq (h : Ascending s.codes) (id : Int) :
    s.primaryCodeOf? id = (s.primaryRow? id).map (·.code) := by
  have hmarked := h.filter fun k => k.countryId = id && k.isPrimary
  rw [primaryRow?, ← List.head?_filter]
  unfold primaryCodeOf?
  generalize s.codes.filter (fun k => k.countryId = id && k.isPrimary) = marked at hmarked ⊢
  cases marked with
  | nil => rfl
  | cons k marked =>
    obtain ⟨hk, -⟩ := List.pairwise_cons.mp hmarked
    have hleast : ((k :: marked).map (·.id)).min? = some k.id := by
      rw [List.min?_eq_some_iff]
      refine ⟨List.mem_cons_self, fun n hn => ?_⟩
      rcases List.mem_cons.mp hn with rfl | hn
      · exact Int.le_refl _
      · obtain ⟨l, hl, rfl⟩ := List.mem_map.mp hn
        exact Int.le_of_lt (hk l hl)
    simp only [hleast, Option.bind_some, Option.bind_eq_bind]
    rw [List.find?_cons_of_pos (by simp), List.head?_cons]

/-! ## Answers and results -/

/-- **The dialling codes of a country in an answer.** -/
structure ShowsCodes (s : Store) (c : CountryRow) : Prop where
  /-- The primary code is the one that the country is sorted by, -/
  sorted : (s.detail c).primaryCode = s.primaryCodeOf? c.id
  /-- the code of the marked row with the least number, -/
  primary : ∀ code, (s.detail c).primaryCode = some code ↔
    ∃ k ∈ s.codes, k.countryId = c.id ∧ k.isPrimary ∧ k.code = code ∧
      ∀ l ∈ s.codes, l.countryId = c.id → l.isPrimary → k.id ≤ l.id
  /-- and absent if no row is marked. -/
  absent : (s.detail c).primaryCode = none ↔
    ∀ k ∈ s.codes, k.countryId = c.id → k.isPrimary = false
  /-- All rows of the country are shown, and no others, in the order of their numbers. -/
  listed : ∃ rows, (s.detail c).codes = rows.map codeDetail ∧ Ascending rows ∧
    ∀ k, k ∈ rows ↔ k ∈ s.codes ∧ k.countryId = c.id

theorem Ascending.showsCodes (h : Ascending s.codes) (c : CountryRow) : s.ShowsCodes c where
  sorted := (s.primaryCode?_codesOf c.id).trans (primaryCodeOf?_eq h c.id).symm
  primary code := by
    change primaryCode? (s.codesOf c.id) = some code ↔ _
    rw [primaryCode?_codesOf, Option.map_eq_some_iff]
    simp only [primaryRow?, find?_eq_some_iff h, Bool.and_eq_true, decide_eq_true_eq]
    constructor
    · rintro ⟨k, ⟨hk, ⟨hid, hmarked⟩, hleast⟩, hcode⟩
      exact ⟨k, hk, hid, hmarked, hcode, fun l hl hlid hlm => hleast l hl ⟨hlid, hlm⟩⟩
    · rintro ⟨k, hk, hid, hmarked, hcode, hleast⟩
      exact ⟨k, ⟨hk, ⟨hid, hmarked⟩, fun l hl hl' => hleast l hl hl'.1 hl'.2⟩, hcode⟩
  absent := by
    change primaryCode? (s.codesOf c.id) = none ↔ _
    rw [primaryCode?_codesOf, Option.map_eq_none_iff, primaryRow?, List.find?_eq_none]
    simp
  listed := ⟨s.codesOf c.id, rfl, h.filter _, fun k => by simp [codesOf]⟩

/-- Where a primary code is, one that is not smaller follows. -/
theorem exists_primaryCodeOf?_of_precedes (h : s.precedes .countryCode a b) {x : String}
    (ha : s.primaryCodeOf? a.id = some x) : ∃ y, s.primaryCodeOf? b.id = some y ∧ x ≤ y := by
  rw [precedes_iff] at h
  simp only [sortKey, ha, Option.map_some, Option.getD_some] at h
  cases hb : s.primaryCodeOf? b.id with
  | none => simp [hb, SortKey.lt] at h
  | some y =>
    refine ⟨y, rfl, ?_⟩
    rcases h with hlt | ⟨heq, -⟩
    · have hxy : x < y := by simpa [hb, SortKey.lt] using hlt
      exact String.not_lt.mp (String.lt_asymm hxy)
    · obtain rfl : x = y := by simpa [hb] using heq
      exact String.le_refl x

end Store

namespace Registry

open Search Store

variable {r : Registry}

/-- **No run leaves the dialling codes out of order.** -/
theorem Reachable.ascending (h : r.Reachable) : Ascending r.store.codes :=
  h.store_induction (P := fun s => Ascending s.codes) List.Pairwise.nil
    fun _ _ hs hw => hw.ascending hs

/-- **The primary code that is shown is the one that is sorted by**, after any run; so along the
ascending result of a search that is sorted by it, read page after page, countries without one come
first and it never decreases. -/
theorem primaryCode_agrees (h : r.Reachable) :
    (∀ c ∈ r.store.countries, r.store.ShowsCodes c) ∧
    ∀ v request, Request.read v = .ok request → request.sortBy = .countryCode →
      request.direction = .ascending →
      (r.store.readThrough request).Pairwise fun d e =>
        ∀ x, d.primaryCode = some x → ∃ y, e.primaryCode = some y ∧ x ≤ y := by
  have hascending := h.ascending
  refine ⟨fun c _ => hascending.showsCodes c, fun v request hr hsort hdirection => ?_⟩
  rw [readThrough_eq h.linked.ids (Request.one_le_pageSize hr), List.pairwise_map]
  have horder := r.store.pairwise_ordered request.sortBy request.direction (r.store.found request)
  rw [hsort, hdirection] at horder
  unfold result
  rw [hsort, hdirection]
  refine horder.imp fun {a b} hab x hx => ?_
  rw [(hascending.showsCodes a).sorted] at hx
  rw [(hascending.showsCodes b).sorted]
  exact exists_primaryCodeOf?_of_precedes hab hx

/-- Three countries, of which the first has two primary codes, the second has none, and the third
has one under the number of a code that it had before. -/
def ranked : Registry :=
  let writes : List Operation :=
    [.createRow (columns ⟨"Norway", "Europe", "NO", "NOR", ["47", "048"]⟩) true,
      .createRow (columns ⟨"Atlantis", "Europe", "AT", "ATL", []⟩) true,
      .addCode (some 2) (some "9") false,
      .createRow (columns ⟨"Finland", "Europe", "FI", "FIN", ["358"]⟩) true,
      .replaceRow 3 (columns ⟨"Finland", "Europe", "FI", "FIN", ["0358"]⟩) true,
      .addCode (some 1) (some "0047") true]
  writes.foldl (fun r op => (r.perform op).2) ⟨.empty, .empty 10 true, 0, ⟨60, 60⟩⟩

/-- All three show what they are sorted by, read two to a page. -/
theorem primaryCode_agrees_ranked :
    let request : Request := ⟨none, none, none, none, none, 1, 2, .countryCode, .ascending⟩
    ranked.Reachable ∧
    ranked.store.codes = [⟨1, 1, "47", true, 0, 0⟩, ⟨2, 1, "048", false, 0, 0⟩,
      ⟨3, 2, "9", false, 0, 0⟩, ⟨4, 3, "0358", true, 0, 0⟩, ⟨5, 1, "0047", true, 0, 0⟩] ∧
    Request.read (.object [("pageSize", .int 2), ("sortBy", .text "CountryCode")]) = .ok request ∧
    (∀ c ∈ ranked.store.countries, ranked.store.ShowsCodes c) ∧
    (ranked.store.readThrough request).Pairwise fun d e =>
      ∀ x, d.primaryCode = some x → ∃ y, e.primaryCode = some y ∧ x ≤ y := by
  intro request
  have hreachable : ranked.Reachable := .perform _ (.perform _ (.perform _ (.perform _ (.perform _
    (.perform _ (.empty 10 true 0 ⟨60, 60⟩))))))
  have hr : Request.read (.object [("pageSize", .int 2), ("sortBy", .text "CountryCode")]) =
    .ok request := by rfl
  obtain ⟨hshows, hresult⟩ := primaryCode_agrees hreachable
  exact ⟨hreachable, by decide +kernel, hr, hshows, hresult _ _ hr rfl rfl⟩

end Registry

end Gazetteer
