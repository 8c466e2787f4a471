import Gazetteer.Proofs.Store.Upkeep

/-!
# What a write leaves alone

A write is about one country: it puts the row of that country in, replaces it or takes it out, and
does the same with the dialling codes of that country.  All other rows stay as they are, with their
numbers and dates.

* `HasCountry`: a country as the write that it was last written by left it;
* `OnlyOn`: two stores that differ in the rows of one country only;
* `Linked.hasCountry_create`, `Linked.onlyOn_create` and the like: what the three writes come to.
-/

namespace Gazetteer.Store

open Country

variable {s t : Store} {row : CountryRow} {now : Instant} {f : Fields} {id : Int}

/-! ## A country and its dialling codes -/

/-- **The one country with a number**, with these dialling codes, all of which are as old as its
last modification. -/
structure HasCountry (s : Store) (row : CountryRow) (codes : List String) : Prop where
  unique : s.countries.filter (·.id = row.id) = [row]
  /-- The dialling codes are in order, -/
  codes : (s.codesOf row.id).map (·.code) = codes
  /-- they have ascending numbers, -/
  ascending : ((s.codesOf row.id).map (·.id)).Pairwise (· < ·)
  /-- and the first, and only the first, is primary. -/
  primary : ∀ (i : Nat) (k : CodeRow), (s.codesOf row.id)[i]? = some k → (k.isPrimary ↔ i = 0)
  dates : ∀ k ∈ s.codesOf row.id, k.created = row.modified ∧ k.modified = row.modified

theorem pairwise_id_rowsFrom (n countryId : Int) (now : Instant) (isPrimary : Bool)
    (codes : List String) :
    ((rowsFrom n countryId now isPrimary codes).map (·.id)).Pairwise (· < ·) := by
  induction codes generalizing n isPrimary with
  | nil => exact List.Pairwise.nil
  | cons code codes ih =>
    refine List.Pairwise.cons (fun m hm => ?_) (ih (n + 1) false)
    obtain ⟨k, hk, rfl⟩ := List.mem_map.mp hm
    have hlater := (mem_rowsFrom hk).2.2.2
    change n < k.id
    omega

theorem isPrimary_rowsFrom {n countryId : Int} {codes : List String} {i : Nat} {k : CodeRow}
    (h : (rowsFrom n countryId now true codes)[i]? = some k) : k.isPrimary ↔ i = 0 := by
  cases codes with
  | nil => cases h
  | cons code codes =>
    cases i with
    | zero =>
      cases h
      exact iff_of_true rfl rfl
    | succ i =>
      have hmem : k ∈ rowsFrom (n + 1) countryId now false codes := List.mem_of_getElem? h
      simp [not_isPrimary_of_mem_rowsFrom hmem]

/-- A country that one write has put in, with its dialling codes. -/
theorem hasCountry_of_rowsFrom {n : Int} {codes : List String}
    (hrow : s.countries.filter (·.id = row.id) = [row])
    (hcodes : s.codesOf row.id = rowsFrom n row.id row.modified true codes) :
    s.HasCountry row codes where
  unique := hrow
  codes := by rw [hcodes, map_code_rowsFrom]
  ascending := by
    rw [hcodes]
    exact pairwise_id_rowsFrom _ _ _ _ _
  primary i k hk := by
    rw [hcodes] at hk
    exact isPrimary_rowsFrom hk
  dates k hk := by
    rw [hcodes] at hk
    obtain ⟨-, hcreated, hmodified, -⟩ := mem_rowsFrom hk
    exact ⟨hcreated, hmodified⟩

/-- With numbers of their own, one row has the number of a row. -/
theorem filter_id_of_mem {rows : List CountryRow} (h : (rows.map (·.id)).Nodup)
    (hrow : row ∈ rows) : rows.filter (·.id = row.id) = [row] := by
  induction rows with
  | nil => cases hrow
  | cons c rows ih =>
    obtain ⟨hc, hrows⟩ : c.id ∉ rows.map (·.id) ∧ (rows.map (·.id)).Nodup := List.nodup_cons.mp h
    have hne : ∀ d ∈ rows, d.id ≠ c.id := fun d hd he => hc (he ▸ List.mem_map_of_mem hd)
    rcases List.mem_cons.mp hrow with rfl | hrow
    · rw [List.filter_cons_of_pos (by simp), List.filter_eq_nil_iff.mpr (by simpa using hne)]
    · have hother : c.id ≠ row.id := (hne row hrow).symm
      rw [List.filter_cons_of_neg (by simpa using hother), ih hrows hrow]

/-! ## All other rows -/

/-- **Only the rows of one country differ**, and no dialling code is left without a country. -/
structure OnlyOn (id : Int) (s t : Store) : Prop where
  countries : t.countries.filter (·.id ≠ id) = s.countries.filter (·.id ≠ id)
  codes : t.codes.filter (·.countryId ≠ id) = s.codes.filter (·.countryId ≠ id)
  owned : ∀ k ∈ t.codes, ∃ c ∈ t.countries, c.id = k.countryId

theorem filter_rowsFrom_others (n countryId : Int) (now : Instant) (isPrimary : Bool)
    (codes : List String) :
    (rowsFrom n countryId now isPrimary codes).filter (·.countryId ≠ countryId) = [] := by
  rw [List.filter_eq_nil_iff]
  intro k hk
  simp [(mem_rowsFrom hk).1]

theorem filter_map_replaced (h : row.id = id) (rows : List CountryRow) :
    (rows.map fun c => if c.id = id then row else c).filter (·.id ≠ id) =
      rows.filter (·.id ≠ id) := by
  induction rows with
  | nil => rfl
  | cons c rows ih =>
    by_cases hc : c.id = id
    · simpa [hc, h] using ih
    · simpa [hc] using ih

/-! ## The three writes -/

theorem id_ne_of_create (hs : s.create now (columns f) = .ok (row, t)) :
    ∀ c ∈ s.countries, c.id ≠ row.id := by
  obtain ⟨hrow, -, -⟩ := create_columns_eq_ok hs
  intro c hc
  rw [hrow]
  exact id_ne_nextId hc

theorem Linked.hasCountry_create (h : s.Linked) (hs : s.create now (columns f) = .ok (row, t)) :
    t.HasCountry row f.codes := by
  have hlinked := h.create hs
  have hnew := h.codesOf_eq_nil (id_ne_of_create hs)
  obtain ⟨hrow, -, rfl⟩ := create_columns_eq_ok hs
  have hmodified : row.modified = now := by rw [hrow]
  have hmem : row ∈ s.countries ++ [row] := List.mem_append_right _ (List.mem_singleton_self row)
  refine hasCountry_of_rowsFrom (n := nextId (s.codes.map (·.id)))
    (filter_id_of_mem hlinked.ids hmem) ?_
  rw [hmodified]
  exact codesOf_append_self hnew _ _ _

theorem Linked.onlyOn_create (h : s.Linked) (hs : s.create now (columns f) = .ok (row, t)) :
    OnlyOn row.id s t := by
  have hlinked := h.create hs
  obtain ⟨-, -, rfl⟩ := create_columns_eq_ok hs
  refine ⟨?_, ?_, hlinked.owned⟩
  · rw [List.filter_append, List.filter_cons_of_neg (by simp), List.filter_nil, List.append_nil]
  · rw [List.filter_append, filter_rowsFrom_others, List.append_nil]

theorem Linked.hasCountry_replace (h : s.Linked)
    (hs : s.replace now id (columns f) = .ok (some (row, t))) : t.HasCountry row f.codes := by
  have hlinked := h.replace hs
  have hmem := (mem_of_country?_eq_some (country?_of_replace hs)).1
  obtain ⟨old, -, hrow, -, n, rfl⟩ := replace_columns_eq_ok hs
  have hid : row.id = id := by rw [hrow]
  have hmodified : row.modified = now := by rw [hrow]
  refine hasCountry_of_rowsFrom (n := n) (filter_id_of_mem hlinked.ids hmem) ?_
  rw [hid, hmodified]
  exact codesOf_replaced_self s _ n f.codes

theorem Linked.onlyOn_replace (h : s.Linked)
    (hs : s.replace now id (columns f) = .ok (some (row, t))) : OnlyOn id s t := by
  have hlinked := h.replace hs
  obtain ⟨old, -, hrow, -, n, rfl⟩ := replace_columns_eq_ok hs
  have hid : row.id = id := by rw [hrow]
  refine ⟨filter_map_replaced hid s.countries, ?_, hlinked.owned⟩
  rw [List.filter_append, filter_rowsFrom_others, List.append_nil, List.filter_filter]
  simp only [Bool.and_self]

theorem Linked.onlyOn_remove (h : s.Linked) (hs : s.remove id = .ok (some t)) :
    OnlyOn id s t := by
  have hlinked := h.remove hs
  obtain rfl := remove_eq_ok hs
  refine ⟨?_, ?_, hlinked.owned⟩
  · simp only [List.filter_filter, Bool.and_self]
  · simp only [List.filter_filter, Bool.and_self]

end Gazetteer.Store
