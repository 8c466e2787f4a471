import Gazetteer.Proofs.Cache.Entries
import Gazetteer.Proofs.Registry.Key

/-!
# What the key of a page stands for

A request is read from an object, in which a filter may be missing, null, or blank; these three are
the same filter.  The keys of two pages are the same if and only if the two requests ask for the
same, and all keys go when everything is invalidated.

* `Request.asked`: the filter that an object gives under one of several names;
* `Request.filters_of_read`: the filters of a request are those of the object it was read from;
* `Cache.contains_invalidate`: nothing under the family is found after an invalidation;
* `Key.search_eq_iff_asks`: two pages with one key are one page, and no other query has that key.
-/

namespace Gazetteer

open Search Text Validation

/-! ## The filters of an object -/

namespace Search.Request

/-- The names under which the five filters may be given, in the order of the fields. -/
def filterNames : List (List String) :=
  [["name"], ["continent"], ["iso2"], ["iso3"], ["countryCode", "country_code"]]

/-- **The filter that a value gives** under the first of some names: a text that is not blank, and
none if there is no such field, or if it holds anything else. -/
def asked (names : List String) : Json → Option String
  | .object fields =>
    ((Json.firstField? names fields).bind (·.2.text?)).filter (!isAllBlank ·)
  | _ => none

/-- The five filters of a request. -/
def filters (r : Request) : List (Option String) :=
  [r.name, r.continent, r.iso2, r.iso3, r.countryCode]

theorem withDefault_filter_eq_ok {names : List String} {rule : TextRule}
    {fields : List (String × Json)} {o : Option String}
    (h : withDefault names none (filter rule) fields = .ok o) :
    o = asked names (.object fields) := by
  unfold withDefault at h
  simp only [asked]
  cases hf : Json.firstField? names fields with
  | none =>
    rw [hf] at h
    cases h
    rfl
  | some field =>
    rw [hf] at h
    exact filter_eq_ok (Checked.under_eq_ok_iff.mp h)

/-- **The filters of a request are those of the value it was read from.** -/
theorem filters_of_read {v : Json} {r : Request} (h : read v = .ok r) :
    r.filters = filterNames.map (asked · v) := by
  obtain ⟨fields, rfl, hfields⟩ := object_of_read h
  obtain ⟨hname, hcontinent, hiso2, hiso3, hcode, -⟩ := parts_of_ofFields hfields
  simp only [filters, filterNames, List.map_cons, List.map_nil]
  rw [withDefault_filter_eq_ok hname, withDefault_filter_eq_ok hcontinent,
    withDefault_filter_eq_ok hiso2, withDefault_filter_eq_ok hiso3, withDefault_filter_eq_ok hcode]

/-- Two requests are the same if their filters, their pages and their orders are. -/
theorem eq_iff_filters {r r' : Request} : r = r' ↔ r.filters = r'.filters ∧
    r.pageNumber = r'.pageNumber ∧ r.pageSize = r'.pageSize ∧ r.sortBy = r'.sortBy ∧
      r.direction = r'.direction := by
  cases r
  cases r'
  simp [filters, and_assoc]

end Search.Request

/-! ## Invalidations -/

/-- **Nothing under the family is found after an invalidation.** -/
theorem Cache.contains_invalidate {α : Type} {family key : String} (h : isUnder family key)
    (c : Cache α) (now : Number.Quantity) :
    (c.invalidate now family).2.contains now key = false := by
  unfold contains
  cases hf : (c.invalidate now family).2.find? now key with
  | none => rfl
  | some e =>
    obtain ⟨he, hl, rfl⟩ := find?_eq_some hf
    exact absurd ⟨h, hl⟩ (mem_invalidate.mp he).2

/-! ## Keys -/

namespace Key

/-- **The key of a page stands for what the request asks for**: two requests have the same key if
and only if they agree on every filter, a missing one and a blank one being none, and on the number
and the size of the page, the field and the direction of the order.  The key is no key of a country,
nor the one of the continents; two countries have two keys; and every key begins with the family, so
that an invalidation of the family leaves nothing under it. -/
theorem search_eq_iff_asks {v v' : Json} {r r' : Request} (h : Request.read v = .ok r)
    (h' : Request.read v' = .ok r') :
    (search r = search r' ↔
      (∀ names ∈ Request.filterNames, Request.asked names v = Request.asked names v') ∧
        r.pageNumber = r'.pageNumber ∧ r.pageSize = r'.pageSize ∧ r.sortBy = r'.sortBy ∧
          r.direction = r'.direction) ∧
    (search r = search r' ↔ r = r') ∧
    (∀ n, search r ≠ country n) ∧ search r ≠ continents ∧
    Function.Injective country ∧ (∀ n, country n ≠ continents) ∧
    ∀ (q : Query) (c : Cache Reading) (now : Number.Quantity),
      family.toList <+: q.key.toList ∧ (c.invalidate now family).2.contains now q.key = false := by
  have hsame : search r = search r' ↔ r = r' :=
    ⟨search_injective (Request.normal_of_read h) (Request.normal_of_read h'), congrArg search⟩
  refine ⟨?_, hsame, fun n => (country_ne_search n r).symm, search_ne_continents r,
    fun _ _ => country_injective, country_ne_continents, fun q c now => ?_⟩
  · rw [hsame, Request.eq_iff_filters, Request.filters_of_read h, Request.filters_of_read h',
      List.map_inj_left]
  · exact ⟨List.isPrefixOf_iff_prefix.mp (Query.isUnder_key q),
      Cache.contains_invalidate (Query.isUnder_key q) c now⟩

/-- A colon in a name is not the one between a name and a continent. -/
theorem search_colon :
    let r : Request := ⟨some "a:b", none, none, none, some "+33", 1, 50, .name, .ascending⟩
    let r' : Request := ⟨some "a", some "b", none, none, some "+33", 1, 50, .name, .ascending⟩
    Request.read (.object [("name", .text "a:b"), ("iso2", .text " "),
      ("country_code", .text "+33")]) = .ok r ∧
    Request.read (.object [("name", .text "a"), ("continent", .text "b"),
      ("countryCode", .text "+33")]) = .ok r' ∧ search r ≠ search r' := by
  intro r r'
  have h : Request.read (.object [("name", .text "a:b"), ("iso2", .text " "),
    ("country_code", .text "+33")]) = .ok r := rfl
  have h' : Request.read (.object [("name", .text "a"), ("continent", .text "b"),
    ("countryCode", .text "+33")]) = .ok r' := rfl
  refine ⟨h, h', fun hkey => ?_⟩
  have hasked := ((search_eq_iff_asks h h').1.mp hkey).1
  exact absurd (hasked ["name"] (by decide)) (by decide)

end Key

end Gazetteer
