import Gazetteer.Proofs.Registry.Transparency
import Gazetteer.Proofs.Store.Paging

/-!
# Reading a result page by page

A registry whose live readings are fresh answers one search after the other as the tables do, and so
its pages make up the whole result.

* `leaf`: the answers of a row of searches that differ in nothing but the number of the page;
* `search_told`, `leaf_eq`: one search, and a row of them;
* `partition_of_read`: the pages of a request make up its result.
-/

namespace Gazetteer

open Search Store

theorem Search.Request.Normal.onPage {request : Request} (h : request.Normal) (number : Nat) :
    (request.onPage number).Normal :=
  ⟨h.name, h.continent, h.iso2, h.iso3, h.countryCode⟩

namespace Registry

variable {r : Registry} {request : Request}

/-! ## Searches in a row -/

/-- The answers of searches for pages, one after the other; between two searches dead readings are
swept out of the cache. -/
def leaf (r : Registry) (request : Request) :
    List Nat → List (Except Fault (Option Country.Page))
  | [] => []
  | number :: numbers => (r.search (request.onPage number)).1 ::
    (r.search (request.onPage number)).2.sweep.leaf request numbers

/-- **A search is answered as the tables answer it.** -/
theorem search_told (h : r.Fresh) (hk : r.lifetimes.HaveEnds r.clock) (hr : request.Normal) :
    (r.search request).1 = .ok (some (r.store.page request)) := by
  unfold search
  rw [read_told (q := .search request) h hr hk]
  rfl

/-- A search leaves fresh readings, the tables, the clock and the lifetimes behind. -/
theorem fresh_search (h : r.Fresh) (hr : request.Normal) : (r.search request).2.Fresh :=
  fresh_change h (.reading (.search request) hr)

theorem search_frame (r : Registry) (request : Request) :
    ∃ c, (r.search request).2 = { r with cache := c } :=
  r.read_frame (.search request)

/-- **So are searches in a row.** -/
theorem leaf_eq (h : r.Fresh) (hk : r.lifetimes.HaveEnds r.clock) (hr : request.Normal)
    (numbers : List Nat) : r.leaf request numbers =
      numbers.map fun number => .ok (some (r.store.page (request.onPage number))) := by
  induction numbers generalizing r with
  | nil => rfl
  | cons number numbers ih =>
    have hfresh := fresh_sweep (fresh_search h (hr.onPage number))
    obtain ⟨c, hc⟩ := r.search_frame (request.onPage number)
    rw [hc] at hfresh
    rw [leaf, search_told h hk (hr.onPage number), hc, ih hfresh hk]
    rfl

/-! ## The whole result -/

/-- **The pages of a request make up its result**, whatever the tables hold: the countries that
match are there, each once and no others, every page tells how many they are and holds as many of
them as there are left for it.  The order of the rows in the tables does not matter, and a registry
whose live readings are fresh answers with these pages. -/
theorem partition_of_read {s : Store} (h : (s.countries.map (·.id)).Nodup) {v : Json}
    (hr : Request.read v = .ok request) : ∃ all, s.Partition request all ∧
    (∀ t : Store, s.countries.Perm t.countries → s.codes = t.codes →
      ∀ number, t.page (request.onPage number) = s.page (request.onPage number)) ∧
    ∀ r : Registry, r.store = s → r.Fresh → r.lifetimes.HaveEnds r.clock →
      ∀ numbers, r.leaf request numbers =
        numbers.map fun number => .ok (some (s.page (request.onPage number))) := by
  refine ⟨_, partition_of_nodup h (Request.one_le_pageSize hr), fun t hc hk number => ?_, ?_⟩
  · exact (page_eq_of_perm h hc hk (request.onPage number)).symm
  · rintro r rfl hfresh hends numbers
    exact leaf_eq hfresh hends (Request.normal_of_read hr) numbers

/-- Three countries, of which the second has the dialling code 1 twice and the third has it once. -/
def sharers : Store :=
  ⟨[⟨1, "A", "X", "AA", "AAA", 0, 0⟩, ⟨2, "B", "X", "BB", "BBB", 0, 0⟩,
      ⟨3, "C", "X", "CC", "CCC", 0, 0⟩],
    [⟨1, 1, "2", true, 0, 0⟩, ⟨2, 2, "1", true, 0, 0⟩, ⟨3, 2, "1", false, 0, 0⟩,
      ⟨4, 3, "1", true, 0, 0⟩]⟩

/-- Asked for with one country on a page, they are two pages. -/
theorem partition_sharers : ∃ request,
    Request.read (.object [("countryCode", .text "1"), ("pageSize", .int 1)]) = .ok request ∧
    [1, 2, 3].map (fun number => (sharers.page (request.onPage number)).items.length) = [1, 1, 0] ∧
    ∀ number, (sharers.page (request.onPage number)).totalCount = 2 := by
  obtain ⟨all, h, -⟩ := partition_of_read (s := sharers) (by decide)
    (v := .object [("countryCode", .text "1"), ("pageSize", .int 1)]) rfl
  have htotal : all.length = 2 := (h.total 1).symm.trans (by decide)
  refine ⟨_, rfl, ?_, fun number => (h.total number).trans htotal⟩
  simp only [List.map_cons, List.map_nil, h.length 1 le_rfl, h.length 2 (by decide),
    h.length 3 (by decide), htotal]
  rfl

end Registry

end Gazetteer
