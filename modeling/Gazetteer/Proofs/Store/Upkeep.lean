import Gazetteer.Proofs.Country.Draft
import Gazetteer.Proofs.Store.Session
import Mathlib.Data.List.Nodup

/-!
# Well-kept tables

The tables themselves demand little: no value may be absent, and names and ISO codes are unlike each
other.  That each country has a primary dialling code, that no dialling code is left behind, and
that the dates fit together, all rests on the way in which a country is written: its dialling codes
go out and come in together, in one write, which is also the one that it was last modified by.

* `rowsFrom`: the dialling codes that one write puts in; `exists_primary`: the first is the primary
  one;
* `create_columns_eq_ok`, `replace_columns_eq_ok`, `remove_eq_ok`: what a write does to the tables;
* `Linked`: tables whose rows fit together; `Linked.create` and its like: writes keep them so;
* `IsWritten`: a country as one write left it; `Tidy`: tables of such countries;
* `Tidy.create`, `Tidy.replace`, `Tidy.remove`: writes keep them so, whatever the time is;
* `WellKept`: tidy tables whose dates fit together; `WellKept.create` and its like: if the clock
  is not set back, writes keep the tables well.
-/

namespace Gazetteer.Store

open Country

variable {s t : Store} {row : CountryRow} {now : Instant} {f : Fields} {id countryId : Int}

/-! ## The dialling codes of one write -/

/-- The rows of dialling codes from the number `id` on; only the first may be primary. -/
def rowsFrom (id countryId : Int) (now : Instant) : Bool → List String → List CodeRow
  | _, [] => []
  | isPrimary, code :: codes =>
    ⟨id, countryId, code, isPrimary, now, now⟩ :: rowsFrom (id + 1) countryId now false codes

theorem codeRows_map_some (id countryId : Int) (now : Instant) (isPrimary : Bool)
    (codes : List String) : codeRows id countryId now isPrimary (codes.map some) =
      .ok (rowsFrom id countryId now isPrimary codes) := by
  induction codes generalizing id isPrimary with
  | nil => rfl
  | cons code codes ih => simp only [List.map_cons, codeRows, present, ok_bind, ih, rowsFrom]

theorem map_code_rowsFrom (id countryId : Int) (now : Instant) (isPrimary : Bool)
    (codes : List String) : (rowsFrom id countryId now isPrimary codes).map (·.code) = codes := by
  induction codes generalizing id isPrimary with
  | nil => rfl
  | cons code codes ih => simp only [rowsFrom, List.map_cons, ih]

theorem mem_rowsFrom {isPrimary : Bool} {codes : List String} {k : CodeRow}
    (h : k ∈ rowsFrom id countryId now isPrimary codes) :
    k.countryId = countryId ∧ k.created = now ∧ k.modified = now ∧ id ≤ k.id := by
  induction codes generalizing id isPrimary with
  | nil => cases h
  | cons code codes ih =>
    rcases List.mem_cons.mp h with rfl | h
    · exact ⟨rfl, rfl, rfl, Int.le_refl _⟩
    · obtain ⟨hc, hcr, hm, hid⟩ := ih h
      exact ⟨hc, hcr, hm, by omega⟩

theorem not_isPrimary_of_mem_rowsFrom {codes : List String} {k : CodeRow}
    (h : k ∈ rowsFrom id countryId now false codes) : k.isPrimary = false := by
  induction codes generalizing id with
  | nil => cases h
  | cons code codes ih =>
    rcases List.mem_cons.mp h with rfl | h
    · rfl
    · exact ih h

/-- **The first dialling code is the primary one**, and no other is. -/
theorem exists_primary (id countryId : Int) (now : Instant) {codes : List String}
    (h : codes ≠ []) : ∃ k ∈ rowsFrom id countryId now true codes,
      ∀ l ∈ rowsFrom id countryId now true codes, (l.isPrimary ↔ l = k) ∧ k.id ≤ l.id := by
  obtain ⟨code, codes, rfl⟩ := List.exists_cons_of_ne_nil h
  refine ⟨⟨id, countryId, code, true, now, now⟩, List.mem_cons_self, fun l hl => ?_⟩
  rcases List.mem_cons.mp hl with rfl | hl
  · exact ⟨iff_of_true rfl rfl, Int.le_refl _⟩
  · have hlater := (mem_rowsFrom hl).2.2.2
    have hprimary := not_isPrimary_of_mem_rowsFrom hl
    have hne : l ≠ ⟨id, countryId, code, true, now, now⟩ := by
      rintro rfl
      cases hprimary
    refine ⟨iff_of_false (by simp [hprimary]) hne, ?_⟩
    change id ≤ l.id
    omega

theorem filter_rowsFrom_self (id countryId : Int) (now : Instant) (isPrimary : Bool)
    (codes : List String) :
    (rowsFrom id countryId now isPrimary codes).filter (·.countryId = countryId) =
      rowsFrom id countryId now isPrimary codes := by
  rw [List.filter_eq_self]
  intro k hk
  simp [(mem_rowsFrom hk).1]

theorem filter_rowsFrom_of_ne {other : Int} (h : other ≠ countryId) (id : Int) (now : Instant)
    (isPrimary : Bool) (codes : List String) :
    (rowsFrom id countryId now isPrimary codes).filter (·.countryId = other) = [] := by
  rw [List.filter_eq_nil_iff]
  intro k hk
  simp [(mem_rowsFrom hk).1, h.symm]

/-! ## What a write does -/

/-- No country other than one has a key of these values. -/
def KeysFree (s : Store) (id : Int) (f : Fields) : Prop :=
  ∀ c ∈ s.countries, c.id ≠ id → c.name ≠ f.name ∧ c.iso2 ≠ f.iso2 ∧ c.iso3 ≠ f.iso3

theorem isTaken_eq_false_iff {value : CountryRow → String} {x : String} :
    s.isTaken id value x = false ↔ ∀ c ∈ s.countries, c.id ≠ id → value c ≠ x := by
  simp [isTaken]

theorem countryRow_columns_eq_ok {created modified : Instant}
    (h : s.countryRow id created modified (columns f) = .ok row) :
    row = ⟨id, f.name, f.continent, f.iso2, f.iso3, created, modified⟩ ∧ s.KeysFree id f := by
  obtain ⟨hname, hcontinent, hiso2, hiso3, free3, free2, free, hid, hc, hm⟩ :=
    countryRow_eq_ok_iff.mp h
  obtain ⟨rid, rname, rcontinent, riso2, riso3, rcreated, rmodified⟩ := row
  cases hname
  cases hcontinent
  cases hiso2
  cases hiso3
  cases hid
  cases hc
  cases hm
  refine ⟨rfl, fun c hmem hne => ⟨?_, ?_, ?_⟩⟩
  · exact isTaken_eq_false_iff.mp free c hmem hne
  · exact isTaken_eq_false_iff.mp free2 c hmem hne
  · exact isTaken_eq_false_iff.mp free3 c hmem hne

/-- **A new country** gets the next number, and so do its dialling codes. -/
theorem create_columns_eq_ok (h : s.create now (columns f) = .ok (row, t)) :
    row = ⟨nextId (s.countries.map (·.id)), f.name, f.continent, f.iso2, f.iso3, now, now⟩ ∧
      s.KeysFree row.id f ∧ t = ⟨s.countries ++ [row],
        s.codes ++ rowsFrom (nextId (s.codes.map (·.id))) row.id now true f.codes⟩ := by
  obtain ⟨row', hrow, h⟩ := bind_eq_ok_iff.mp h
  obtain ⟨codes, hcodes, h⟩ := bind_eq_ok_iff.mp h
  cases h
  obtain ⟨hr, hfree⟩ := countryRow_columns_eq_ok hrow
  have hrows := codeRows_map_some (nextId (s.codes.map (·.id))) row.id now true f.codes
  have heq : codes = _ := Except.ok.inj (hcodes.symm.trans hrows)
  refine ⟨hr, ?_, by rw [heq]⟩
  rw [hr]
  exact hfree

/-- **New values for a country** leave its number, and all other countries and dialling codes. -/
theorem replace_columns_eq_ok (h : s.replace now id (columns f) = .ok (some (row, t))) :
    ∃ old, s.country? id = some old ∧
      row = ⟨id, f.name, f.continent, f.iso2, f.iso3, old.created, now⟩ ∧ s.KeysFree id f ∧
      ∃ n, t = ⟨s.countries.map fun c => if c.id = id then row else c,
        s.codes.filter (·.countryId ≠ id) ++ rowsFrom n id now true f.codes⟩ := by
  obtain ⟨_, -, h⟩ := bind_eq_ok_iff.mp h
  cases hold : s.country? id with
  | none => rw [hold] at h; cases h
  | some old =>
    rw [hold] at h
    obtain ⟨row', hrow, h⟩ := bind_eq_ok_iff.mp h
    obtain ⟨codes, hcodes, h⟩ := bind_eq_ok_iff.mp h
    cases h
    obtain ⟨hr, hfree⟩ := countryRow_columns_eq_ok hrow
    have hrows := codeRows_map_some
      (nextId ((s.codes.filter (·.countryId ≠ id)).map (·.id))) id now true f.codes
    have heq : codes = _ := Except.ok.inj (hcodes.symm.trans hrows)
    exact ⟨old, rfl, hr, hfree, _, by rw [heq]⟩

/-- A new country is found by its number. -/
theorem country?_of_create (h : s.create now (columns f) = .ok (row, t)) :
    t.country? row.id = some row := by
  obtain ⟨hrow, -, rfl⟩ := create_columns_eq_ok h
  have hnone : s.countries.find? (·.id = row.id) = none := by
    rw [List.find?_eq_none]
    intro c hc
    rw [hrow]
    simpa using id_ne_nextId hc
  unfold country?
  rw [List.find?_append, hnone]
  simp

/-- And so is one with new values. -/
theorem country?_of_replace (h : s.replace now id (columns f) = .ok (some (row, t))) :
    t.country? id = some row := by
  obtain ⟨old, hold, hrow, -, n, rfl⟩ := replace_columns_eq_ok h
  have hrid : row.id = id := by rw [hrow]
  have hsame :
      ((fun c : CountryRow => decide (c.id = id)) ∘ fun c => if c.id = id then row else c) =
        fun c => decide (c.id = id) := by
    funext c
    by_cases hc : c.id = id
    · simp [hc, hrid]
    · simp [hc]
  unfold country? at hold ⊢
  rw [List.find?_map, hsame, hold]
  simp [(mem_of_country?_eq_some hold).2]

/-- **A country that is removed** leaves nothing behind. -/
theorem remove_eq_ok (h : s.remove id = .ok (some t)) :
    t = ⟨s.countries.filter (·.id ≠ id), s.codes.filter (·.countryId ≠ id)⟩ := by
  obtain ⟨_, -, h⟩ := bind_eq_ok_iff.mp h
  cases hold : s.country? id with
  | none => rw [hold] at h; cases h
  | some old =>
    rw [hold] at h
    cases h
    rfl

/-- What is removed was there, -/
theorem mem_of_remove (h : s.remove id = .ok (some t)) : ∃ c ∈ s.countries, c.id = id := by
  obtain ⟨_, -, h⟩ := bind_eq_ok_iff.mp h
  cases hc : s.country? id with
  | none => rw [hc] at h; cases h
  | some c => exact ⟨c, mem_of_country?_eq_some hc⟩

/-- and what is there can be removed. -/
theorem exists_remove (hfits : fits id) (h : (s.country? id).isSome) :
    ∃ t, s.remove id = .ok (some t) := by
  obtain ⟨row, hrow⟩ := Option.isSome_iff_exists.mp h
  rw [remove, checkId_of_fits hfits, ok_bind, hrow]
  exact ⟨_, rfl⟩

/-! ## Values that are unlike each other -/

section Distinct

variable {β : Type} {value : CountryRow → β}

theorem nodup_append_row (h : (s.countries.map value).Nodup)
    (hnew : ∀ c ∈ s.countries, value c ≠ value row) :
    ((s.countries ++ [row]).map value).Nodup := by
  rw [List.map_append, List.nodup_append]
  refine ⟨h, by simp, ?_⟩
  intro x hx y hy
  obtain ⟨c, hc, rfl⟩ := List.mem_map.mp hx
  obtain rfl : y = value row := by simpa using hy
  exact hnew c hc

theorem nodup_replace_row (hid : (s.countries.map (·.id)).Nodup)
    (h : (s.countries.map value).Nodup)
    (hnew : ∀ c ∈ s.countries, c.id ≠ id → value c ≠ value row) :
    ((s.countries.map fun c => if c.id = id then row else c).map value).Nodup := by
  rw [List.map_map, List.Nodup, List.pairwise_map]
  have hboth := (List.pairwise_map.mp hid).and (List.pairwise_map.mp h)
  refine hboth.imp_of_mem ?_
  rintro c d hc hd ⟨hne, hvalue⟩
  simp only [Function.comp_apply]
  split_ifs with hcid hdid hdid
  · exact absurd (hcid.trans hdid.symm) hne
  · exact (hnew d hd hdid).symm
  · exact hnew c hc hcid
  · exact hvalue

end Distinct

/-! ## Dialling codes of one country -/

theorem codesOf_append_self (h : s.codesOf id = []) (cs : List CountryRow) (n : Int)
    (codes : List String) :
    codesOf ⟨cs, s.codes ++ rowsFrom n id now true codes⟩ id = rowsFrom n id now true codes := by
  unfold codesOf at h ⊢
  rw [List.filter_append, h, filter_rowsFrom_self, List.nil_append]

theorem codesOf_append_of_ne {other : Int} (h : other ≠ id) (cs : List CountryRow) (n : Int)
    (codes : List String) :
    codesOf ⟨cs, s.codes ++ rowsFrom n id now true codes⟩ other = s.codesOf other := by
  unfold codesOf
  rw [List.filter_append, filter_rowsFrom_of_ne h, List.append_nil]

/-- Without the dialling codes of one country, all others have theirs. -/
theorem codesOf_filter_of_ne {other : Int} (h : other ≠ id) (cs : List CountryRow) :
    codesOf ⟨cs, s.codes.filter (·.countryId ≠ id)⟩ other = s.codesOf other := by
  unfold codesOf
  rw [List.filter_filter]
  refine List.filter_congr fun k _ => ?_
  by_cases hk : k.countryId = other
  · simp [hk, h]
  · simp [hk]

theorem codesOf_filter_self (cs : List CountryRow) :
    codesOf ⟨cs, s.codes.filter (·.countryId ≠ id)⟩ id = [] := by
  unfold codesOf
  rw [List.filter_filter, List.filter_eq_nil_iff]
  intro k _
  simp

/-- When its dialling codes are replaced, a country has the new ones and no others. -/
theorem codesOf_replaced_self (s : Store) (cs : List CountryRow) (n : Int) (codes : List String) :
    codesOf ⟨cs, s.codes.filter (·.countryId ≠ id) ++ rowsFrom n id now true codes⟩ id =
      rowsFrom n id now true codes :=
  codesOf_append_self (s := ⟨s.countries, s.codes.filter (·.countryId ≠ id)⟩)
    (codesOf_filter_self s.countries) cs n codes

theorem codesOf_replaced_of_ne {other : Int} (h : other ≠ id) (s : Store) (cs : List CountryRow)
    (n : Int) (codes : List String) :
    codesOf ⟨cs, s.codes.filter (·.countryId ≠ id) ++ rowsFrom n id now true codes⟩ other =
      s.codesOf other :=
  (codesOf_append_of_ne (s := ⟨s.countries, s.codes.filter (·.countryId ≠ id)⟩) h cs n codes).trans
    (codesOf_filter_of_ne h s.countries)

/-! ## Rows that fit together -/

/-- **Rows that fit together**: no two countries have the same number, and every dialling code
belongs to one of them. -/
structure Linked (s : Store) : Prop where
  ids : (s.countries.map (·.id)).Nodup
  owned : ∀ k ∈ s.codes, ∃ c ∈ s.countries, c.id = k.countryId

theorem linked_empty : Linked .empty := by
  constructor <;> simp [empty]

/-- Every country is found by its number. -/
theorem Linked.country?_of_mem (h : s.Linked) (hc : row ∈ s.countries) :
    s.country? row.id = some row := by
  obtain ⟨found, hfound⟩ := Option.isSome_iff_exists.mp (isSome_country?_of_mem hc)
  obtain ⟨hmem, hid⟩ := mem_of_country?_eq_some hfound
  rw [hfound, List.inj_on_of_nodup_map h.ids hmem hc hid]

/-- A number that no country has is that of no dialling code's country. -/
theorem Linked.codesOf_eq_nil (h : s.Linked) (hid : ∀ c ∈ s.countries, c.id ≠ id) :
    s.codesOf id = [] := by
  unfold codesOf
  rw [List.filter_eq_nil_iff]
  intro k hk
  obtain ⟨c, hc, heq⟩ := h.owned k hk
  have hne := hid c hc
  simp only [decide_eq_true_eq]
  omega

/-- A new country has the dialling codes that came in with it. -/
theorem Linked.codesOf_of_create (h : s.Linked) (hs : s.create now (columns f) = .ok (row, t)) :
    (t.codesOf row.id).map (·.code) = f.codes := by
  obtain ⟨hrow, -, rfl⟩ := create_columns_eq_ok hs
  have hne : ∀ c ∈ s.countries, c.id ≠ row.id := fun c hc => by
    rw [hrow]
    exact id_ne_nextId hc
  rw [codesOf_append_self (h.codesOf_eq_nil hne), map_code_rowsFrom]

/-- A country with new values has the dialling codes that came in with them. -/
theorem codesOf_of_replace (hs : s.replace now id (columns f) = .ok (some (row, t))) :
    (t.codesOf id).map (·.code) = f.codes := by
  obtain ⟨old, -, -, -, n, rfl⟩ := replace_columns_eq_ok hs
  rw [codesOf_replaced_self, map_code_rowsFrom]

/-- A country that is removed has none. -/
theorem codesOf_of_remove (hs : s.remove id = .ok (some t)) : t.codesOf id = [] := by
  rw [remove_eq_ok hs]
  exact codesOf_filter_self _

theorem Linked.create (h : s.Linked) (hs : s.create now (columns f) = .ok (row, t)) :
    t.Linked := by
  obtain ⟨hrow, -, rfl⟩ := create_columns_eq_ok hs
  have hne : ∀ c ∈ s.countries, c.id ≠ row.id := fun c hc => by
    rw [hrow]
    exact id_ne_nextId hc
  refine ⟨nodup_append_row h.ids hne, fun k hk => ?_⟩
  rcases List.mem_append.mp hk with hk | hk
  · obtain ⟨c, hc, heq⟩ := h.owned k hk
    exact ⟨c, List.mem_append_left _ hc, heq⟩
  · exact ⟨row, List.mem_append_right _ (List.mem_singleton_self _), (mem_rowsFrom hk).1.symm⟩

theorem Linked.replace (h : s.Linked)
    (hs : s.replace now id (columns f) = .ok (some (row, t))) : t.Linked := by
  obtain ⟨old, hold, hrow, -, n, rfl⟩ := replace_columns_eq_ok hs
  obtain ⟨hmem, hid⟩ := mem_of_country?_eq_some hold
  have hrid : row.id = id := by rw [hrow]
  have hin : row ∈ s.countries.map fun c => if c.id = id then row else c :=
    List.mem_map.mpr ⟨old, hmem, by simp [hid]⟩
  refine ⟨nodup_replace_row h.ids h.ids fun c _ hne => hrid.symm ▸ hne, fun k hk => ?_⟩
  rcases List.mem_append.mp hk with hk | hk
  · obtain ⟨hk, hne⟩ := List.mem_filter.mp hk
    obtain ⟨c, hc, heq⟩ := h.owned k hk
    have hcid : c.id ≠ id := by simpa [heq] using hne
    exact ⟨c, List.mem_map.mpr ⟨c, hc, by simp [hcid]⟩, heq⟩
  · exact ⟨row, hin, hrid.trans (mem_rowsFrom hk).1.symm⟩

theorem sublist_of_remove (value : CountryRow → β) :
    ((s.countries.filter (·.id ≠ id)).map value).Sublist (s.countries.map value) :=
  List.filter_sublist.map value

theorem Linked.remove (h : s.Linked) (hs : s.remove id = .ok (some t)) : t.Linked := by
  obtain rfl := remove_eq_ok hs
  refine ⟨h.ids.sublist (sublist_of_remove _), fun k hk => ?_⟩
  obtain ⟨hk, hne⟩ := List.mem_filter.mp hk
  obtain ⟨c, hc, heq⟩ := h.owned k hk
  exact ⟨c, List.mem_filter.mpr ⟨hc, by simpa [heq] using hne⟩, heq⟩

/-! ## Well-kept countries -/

/-- **A country as one write left it**: with values that may be stored, and with the dialling codes
that came in when it was last modified. -/
structure IsWritten (c : CountryRow) (codes : List CodeRow) : Prop where
  valid : Fields.Valid ⟨c.name, c.continent, c.iso2, c.iso3, codes.map (·.code)⟩
  written : ∃ n, codes = rowsFrom n c.id c.modified true (codes.map (·.code))

/-- Such a country, which was not modified before it was created. -/
structure IsKept (c : CountryRow) (codes : List CodeRow) : Prop extends IsWritten c codes where
  dates : c.created ≤ c.modified

/-- **Tidy tables.**  Their rows fit together, no two countries have the same key, and each of them
is as one write left it. -/
structure Tidy (s : Store) : Prop extends Linked s where
  names : (s.countries.map (·.name)).Nodup
  iso2 : (s.countries.map (·.iso2)).Nodup
  iso3 : (s.countries.map (·.iso3)).Nodup
  written : ∀ c ∈ s.countries, IsWritten c (s.codesOf c.id)

/-- **Well-kept tables** are tidy, and no country was modified before it was created. -/
structure WellKept (s : Store) : Prop extends Tidy s where
  dates : ∀ c ∈ s.countries, c.created ≤ c.modified

theorem WellKept.kept (h : s.WellKept) (c : CountryRow) (hc : c ∈ s.countries) :
    IsKept c (s.codesOf c.id) :=
  ⟨h.written c hc, h.dates c hc⟩

theorem tidy_empty : Tidy .empty := by
  refine ⟨linked_empty, ?_, ?_, ?_, ?_⟩ <;> simp [empty]

theorem wellKept_empty : WellKept .empty := ⟨tidy_empty, nofun⟩

theorem isWritten_of_valid (hf : f.Valid) (created : Instant) (n : Int) :
    IsWritten ⟨id, f.name, f.continent, f.iso2, f.iso3, created, now⟩
      (rowsFrom n id now true f.codes) := by
  refine ⟨?_, n, ?_⟩
  · rw [map_code_rowsFrom]
    exact hf
  · rw [map_code_rowsFrom]

/-- **A new country leaves the tables tidy.** -/
theorem Tidy.create (h : s.Tidy) (hf : f.Valid)
    (hs : s.create now (columns f) = .ok (row, t)) : t.Tidy := by
  have hlinked := h.toLinked.create hs
  obtain ⟨hrow, hfree, rfl⟩ := create_columns_eq_ok hs
  have hne : ∀ c ∈ s.countries, c.id ≠ row.id := fun c hc => by
    rw [hrow]
    exact id_ne_nextId hc
  have hkeys := fun c hc => hfree c hc (hne c hc)
  refine ⟨hlinked, nodup_append_row h.names fun c hc => ?_, nodup_append_row h.iso2 fun c hc => ?_,
    nodup_append_row h.iso3 fun c hc => ?_, fun c hc => ?_⟩
  · rw [hrow]
    exact (hkeys c hc).1
  · rw [hrow]
    exact (hkeys c hc).2.1
  · rw [hrow]
    exact (hkeys c hc).2.2
  · rcases List.mem_append.mp hc with hc | hc
    · rw [codesOf_append_of_ne (hne c hc)]
      exact h.written c hc
    · rw [List.mem_singleton.mp hc, codesOf_append_self (h.codesOf_eq_nil hne)]
      rw [hrow]
      exact isWritten_of_valid hf now _

/-- **So do new values for a country.** -/
theorem Tidy.replace (h : s.Tidy) (hf : f.Valid)
    (hs : s.replace now id (columns f) = .ok (some (row, t))) : t.Tidy := by
  have hlinked := h.toLinked.replace hs
  obtain ⟨old, hold, hrow, hfree, n, rfl⟩ := replace_columns_eq_ok hs
  have hrid : row.id = id := by rw [hrow]
  refine ⟨hlinked, nodup_replace_row h.ids h.names fun c hc hne => ?_,
    nodup_replace_row h.ids h.iso2 fun c hc hne => ?_,
    nodup_replace_row h.ids h.iso3 fun c hc hne => ?_, fun c hc => ?_⟩
  · rw [hrow]
    exact (hfree c hc hne).1
  · rw [hrow]
    exact (hfree c hc hne).2.1
  · rw [hrow]
    exact (hfree c hc hne).2.2
  · obtain ⟨d, hd, rfl⟩ := List.mem_map.mp hc
    by_cases hdid : d.id = id
    · simp only [hdid, if_true]
      rw [hrid, codesOf_replaced_self]
      rw [hrow]
      exact isWritten_of_valid hf old.created n
    · simp only [hdid, if_false]
      rw [codesOf_replaced_of_ne hdid]
      exact h.written d hd

/-- **So does the removal of a country.** -/
theorem Tidy.remove (h : s.Tidy) (hs : s.remove id = .ok (some t)) : t.Tidy := by
  have hlinked := h.toLinked.remove hs
  obtain rfl := remove_eq_ok hs
  refine ⟨hlinked, h.names.sublist (sublist_of_remove _), h.iso2.sublist (sublist_of_remove _),
    h.iso3.sublist (sublist_of_remove _), fun c hc => ?_⟩
  obtain ⟨hc, hne⟩ := List.mem_filter.mp hc
  rw [codesOf_filter_of_ne (by simpa using hne)]
  exact h.written c hc

/-! ### Dates -/

/-- **A new country leaves the tables well kept**: it was modified when it was created. -/
theorem WellKept.create (h : s.WellKept) (hf : f.Valid)
    (hs : s.create now (columns f) = .ok (row, t)) : t.WellKept := by
  refine ⟨h.toTidy.create hf hs, fun c hc => ?_⟩
  obtain ⟨hrow, -, rfl⟩ := create_columns_eq_ok hs
  rcases List.mem_append.mp hc with hc | hc
  · exact h.dates c hc
  · obtain rfl := List.mem_singleton.mp hc
    have hdates : c.created = c.modified := by rw [hrow]
    exact Int.le_of_eq hdates

/-- **So do new values for a country**, as long as it was not created later than now. -/
theorem WellKept.replace (h : s.WellKept) (hf : f.Valid)
    (hdate : ∀ old, s.country? id = some old → old.created ≤ now)
    (hs : s.replace now id (columns f) = .ok (some (row, t))) : t.WellKept := by
  refine ⟨h.toTidy.replace hf hs, fun c hc => ?_⟩
  obtain ⟨old, hold, hrow, -, n, rfl⟩ := replace_columns_eq_ok hs
  obtain ⟨d, hd, rfl⟩ := List.mem_map.mp hc
  by_cases hdid : d.id = id
  · rw [if_pos hdid, hrow]
    exact hdate old hold
  · rw [if_neg hdid]
    exact h.dates d hd

/-- **So does the removal of a country.** -/
theorem WellKept.remove (h : s.WellKept) (hs : s.remove id = .ok (some t)) : t.WellKept := by
  refine ⟨h.toTidy.remove hs, fun c hc => ?_⟩
  obtain rfl := remove_eq_ok hs
  exact h.dates c (List.mem_filter.mp hc).1

end Gazetteer.Store
