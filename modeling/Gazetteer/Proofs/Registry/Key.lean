import Gazetteer.Proofs.Country.Draft
import Gazetteer.Proofs.Text.Separation
import Gazetteer.Registry.Query

/-!
# Keys tell queries apart

Two queries have the same key only if they are the same query, provided that no filter of a search
is an empty text; that of a request that was read from a value never is.

* `Request.filter_eq_ok`: the filter that a value gives;
* `Request.parts_of_ofFields`: the parts of a request, and where they come from;
* `Request.Normal`: no filter is empty; `normal_of_read`;
* `Query.key_injective`: the queries with a key;
* `Query.isUnder_key`: all keys begin alike.
-/

namespace Gazetteer

open Search Text Validation

/-! ## Requests as they are read -/

namespace Search.Request

/-- **No filter is an empty text**, which would ask for something else than no filter. -/
structure Normal (r : Request) : Prop where
  name : r.name ≠ some ""
  continent : r.continent ≠ some ""
  iso2 : r.iso2 ≠ some ""
  iso3 : r.iso3 ≠ some ""
  countryCode : r.countryCode ≠ some ""

/-- **The filter that a value gives**: a text that is not blank, and for anything else none. -/
theorem filter_eq_ok {rule : TextRule} {v : Json} {o : Option String}
    (h : filter rule v = .ok o) : o = v.text?.filter (!isAllBlank ·) := by
  unfold filter Validation.optional at h
  cases v with
  | null =>
    cases h
    rfl
  | text s =>
    by_cases hb : isAllBlank s
    · simp only [blankAsNull, hb, if_true] at h
      cases h
      simp [Json.text?, Option.filter, hb]
    · simp only [blankAsNull, hb] at h
      obtain ⟨t, ht, rfl⟩ := Checked.map_eq_ok_iff.mp h
      obtain ⟨heq, -⟩ := TextRule.check_eq_ok_iff.mp ht
      cases heq
      simp [Json.text?, Option.filter, hb]
  | _ =>
    obtain ⟨t, ht, -⟩ := Checked.map_eq_ok_iff.mp h
    cases (TextRule.check_eq_ok_iff.mp ht).1

theorem ne_empty_of_filter {rule : TextRule} {v : Json} {o : Option String}
    (h : filter rule v = .ok o) : o ≠ some "" := by
  rintro rfl
  obtain ⟨-, hb⟩ := Option.filter_eq_some_iff.mp (filter_eq_ok h).symm
  exact absurd hb (by decide)

theorem ne_empty_of_withDefault {names : List String} {rule : TextRule}
    {fields : List (String × Json)} {o : Option String}
    (h : withDefault names none (filter rule) fields = .ok o) : o ≠ some "" := by
  unfold withDefault at h
  split at h
  · exact ne_empty_of_filter (Checked.under_eq_ok_iff.mp h)
  · cases h
    simp

/-- A request is read from the fields of an object. -/
theorem object_of_read {v : Json} {r : Request} (h : read v = .ok r) :
    ∃ fields, v = .object fields ∧ ofFields fields = .ok r :=
  record_eq_ok_iff.mp h

/-- **The parts of a request**, each read from a field of its own. -/
theorem parts_of_ofFields {fields : List (String × Json)} {r : Request}
    (h : ofFields fields = .ok r) :
    withDefault ["name"] none (filter nameRule) fields = .ok r.name ∧
    withDefault ["continent"] none (filter continentRule) fields = .ok r.continent ∧
    withDefault ["iso2"] none (filter iso2Rule) fields = .ok r.iso2 ∧
    withDefault ["iso3"] none (filter iso3Rule) fields = .ok r.iso3 ∧
    withDefault ["countryCode", "country_code"] none (filter countryCodeRule) fields =
      .ok r.countryCode ∧
    withDefault ["pageNumber", "page_number"] 1 (positive greatestPage) fields =
      .ok r.pageNumber ∧
    withDefault ["pageSize", "page_size"] 50 (positive greatestSize) fields = .ok r.pageSize := by
  simp only [ofFields, Checked.seq_eq_ok_iff, Checked.map_eq_ok_iff] at h
  obtain ⟨_, _, ⟨_, _, ⟨_, _, ⟨_, _, ⟨_, _, ⟨_, _, ⟨_, _, ⟨_, _, ⟨_, hname, rfl⟩, hcontinent, rfl⟩,
    hiso2, rfl⟩, hiso3, rfl⟩, hcode, rfl⟩, hnumber, rfl⟩, hsize, rfl⟩, -, rfl⟩, -, rfl⟩ := h
  exact ⟨hname, hcontinent, hiso2, hiso3, hcode, hnumber, hsize⟩

/-- **A request that was read is normal.** -/
theorem normal_of_ofFields {fields : List (String × Json)} {r : Request}
    (h : ofFields fields = .ok r) : r.Normal := by
  obtain ⟨hname, hcontinent, hiso2, hiso3, hcode, -⟩ := parts_of_ofFields h
  exact ⟨ne_empty_of_withDefault hname, ne_empty_of_withDefault hcontinent,
    ne_empty_of_withDefault hiso2, ne_empty_of_withDefault hiso3, ne_empty_of_withDefault hcode⟩

theorem normal_of_read {v : Json} {r : Request} (h : read v = .ok r) : r.Normal := by
  obtain ⟨_, -, hfields⟩ := object_of_read h
  exact normal_of_ofFields hfields

theorem one_le_of_positive {greatest n : Nat} {v : Json} (h : positive greatest v = .ok n) :
    1 ≤ n := by
  obtain ⟨m, hm, rfl⟩ := Checked.map_eq_ok_iff.mp h
  obtain ⟨k, -, hk⟩ := Checked.andThen_eq_ok_iff.mp hm
  split at hk
  · exact absurd hk Checked.refuse_ne_ok
  · split at hk
    · exact absurd hk Checked.refuse_ne_ok
    · cases hk
      omega

/-- A page has room for something. -/
theorem one_le_pageSize {v : Json} {r : Request} (h : read v = .ok r) : 1 ≤ r.pageSize := by
  obtain ⟨fields, -, hfields⟩ := object_of_read h
  obtain ⟨-, -, -, -, -, -, hsize⟩ := parts_of_ofFields hfields
  unfold withDefault at hsize
  split at hsize
  · exact one_le_of_positive (Checked.under_eq_ok_iff.mp hsize)
  · have hdefault := Checked.ok.inj hsize
    omega

end Search.Request

/-! ## Keys of pages -/

namespace Key

theorem isKept_percent : isKept '%' = false := by decide

/-- No part of a key holds a colon. -/
theorem colon_not_mem_part (o : Option String) : ':' ∉ part o := by
  cases o with
  | none => simp [part]
  | some s =>
    intro h
    rcases Percent.mem_escape h with h | h | ⟨n, hn, h⟩
    · exact absurd h (by decide)
    · exact absurd h (by decide)
    · exact absurd h.symm ((by decide : ∀ n < 16, Percent.capitalDigit n ≠ ':') n hn)

/-- A part tells what it was made of, but for an empty text. -/
theorem part_injective {a b : Option String} (ha : a ≠ some "") (hb : b ≠ some "")
    (h : part a = part b) : a = b := by
  have hne : ∀ s : String, s ≠ "" → part (some s) ≠ part none := by
    intro s hs hp
    have : Percent.escape isKept s.toList = Percent.escape isKept [] := hp
    exact hs (String.toList_eq_nil_iff.mp (Percent.escape_injective isKept_percent this))
  cases a with
  | none =>
    cases b with
    | none => rfl
    | some t => exact absurd h.symm (hne t fun e => hb (e ▸ rfl))
  | some s =>
    cases b with
    | none => exact absurd h (hne s fun e => ha (e ▸ rfl))
    | some t =>
      exact congrArg some (String.toList_inj.mp (Percent.escape_injective isKept_percent h))

theorem word_injective {f g : SortField} (h : f.word = g.word) : f = g := by
  cases f <;> cases g <;> first | rfl | exact absurd h (by decide)

theorem directionWord_injective {d e : SortDirection} (h : d.word = e.word) : d = e := by
  cases d <;> cases e <;> first | rfl | exact absurd h (by decide)

theorem natText_ne_empty (n : Nat) : Number.natText n ≠ "" := fun h =>
  Nat.toDigits_ne_nil (String.ofList_injective (h.trans String.ofList_nil.symm))

/-- **The key of a page tells the request.** -/
theorem search_injective {r r' : Request} (hr : r.Normal) (hr' : r'.Normal)
    (h : search r = search r') : r = r' := by
  have hparts : (parts r).map part = (parts r').map part := by
    have hjoin := String.ofList_injective (String.append_right_inj searchFamily |>.mp h)
    have hcolon : ∀ (q : Request), ∀ p ∈ (parts q).map part, ':' ∉ p := by
      intro q p hp
      obtain ⟨o, -, rfl⟩ := List.mem_map.mp hp
      exact colon_not_mem_part o
    rw [← splitAt_joinWith (by simp [parts]) (hcolon r), hjoin,
      splitAt_joinWith (by simp [parts]) (hcolon r')]
  simp only [parts, List.map_cons, List.map_nil, List.cons.injEq, and_true] at hparts
  obtain ⟨h1, h2, h3, h4, h5, h6, h7, h8, h9⟩ := hparts
  have hsome : ∀ {s t : String}, s ≠ "" → t ≠ "" → part (some s) = part (some t) → s = t :=
    fun hs ht h => Option.some.inj (part_injective (by simpa using hs) (by simpa using ht) h)
  have h6' := Number.natText_injective (hsome (natText_ne_empty _) (natText_ne_empty _) h6)
  have h7' := Number.natText_injective (hsome (natText_ne_empty _) (natText_ne_empty _) h7)
  have h8' := word_injective
    (hsome (by cases r.sortBy <;> decide) (by cases r'.sortBy <;> decide) h8)
  have h9' := directionWord_injective
    (hsome (by cases r.direction <;> decide) (by cases r'.direction <;> decide) h9)
  cases r
  cases r'
  simp only [Request.mk.injEq]
  exact ⟨part_injective hr.name hr'.name h1, part_injective hr.continent hr'.continent h2,
    part_injective hr.iso2 hr'.iso2 h3, part_injective hr.iso3 hr'.iso3 h4,
    part_injective hr.countryCode hr'.countryCode h5, h6', h7', h8', h9'⟩

/-! ## Keys of different kinds -/

theorem country_injective {m n : Int} (h : country m = country n) : m = n :=
  Number.intText_injective (String.append_right_inj countryFamily |>.mp h)

theorem country_ne_search (n : Int) (r : Request) : country n ≠ search r := by
  intro h
  have := congrArg (fun s : String => s.toList.take 9) h
  simp [country, search, countryFamily, searchFamily] at this

theorem country_ne_continents (n : Int) : country n ≠ continents := by
  intro h
  have := congrArg (fun s : String => s.toList.take 9) h
  simp [country, continents, countryFamily] at this

theorem search_ne_continents (r : Request) : search r ≠ continents := by
  intro h
  have := congrArg (fun s : String => s.toList.take 9) h
  simp [search, continents, searchFamily] at this

end Key

/-! ## Keys of queries -/

namespace Query

/-- **A query as it is asked**: the request of a search is normal. -/
def Normal : Query → Prop
  | .search r => r.Normal
  | .country _ | .continents => True

/-- **Keys tell queries apart.** -/
theorem key_injective {q q' : Query} (hq : q.Normal) (hq' : q'.Normal) (h : q.key = q'.key) :
    q = q' := by
  cases q with
  | country m =>
    cases q' with
    | country n => rw [Key.country_injective h]
    | search r => exact absurd h (Key.country_ne_search m r)
    | continents => exact absurd h (Key.country_ne_continents m)
  | search r =>
    cases q' with
    | country n => exact absurd h.symm (Key.country_ne_search n r)
    | search r' => rw [Key.search_injective hq hq' h]
    | continents => exact absurd h (Key.search_ne_continents r)
  | continents =>
    cases q' with
    | country n => exact absurd h.symm (Key.country_ne_continents n)
    | search r => exact absurd h.symm (Key.search_ne_continents r)
    | continents => rfl

/-- **All keys begin alike.** -/
theorem isUnder_key (q : Query) : Cache.isUnder Key.family q.key := by
  cases q <;> simp [Cache.isUnder, key, Key.family, Key.country, Key.countryFamily, Key.search,
    Key.searchFamily, Key.continents]

end Query

end Gazetteer
