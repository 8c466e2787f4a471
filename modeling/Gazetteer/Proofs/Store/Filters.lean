import Gazetteer.Proofs.Registry.Key
import Gazetteer.Proofs.Store.Paging

/-!
# Filters mean what they say

A filter for the name or the continent is compared literally, letters of ASCII in either case, also
if it has characters that are special in patterns.  Only the replacement character and the two
noncharacters that are read as it are taken for one another.  The ISO codes are compared exactly,
and a dialling code is that of any row of the country.  A country is in the result of a search, on
one of its pages and in the total that each of them tells, if and only if it fits every filter; so
the result of several filters is what the results of the single ones have in common.

* `Fits`, `matches_iff_fits`: what a country has to be like;
* `Unreplaced`, `fits_readsAlike_iff`: filters for which it has to be so letter by letter;
* `Request.singles`, `mem_result_iff_singles`: the filters of a request one by one;
* `Request.Relaxes`, `found_sublist`: fewer filters leave no fewer countries;
* `filters_literal`: the result of a search.
-/

namespace Gazetteer

open Search Text

/-! ## Requests with fewer filters -/

namespace Search.Request

/-- A request without filters, for the same pages in the same order. -/
def bare (r : Request) : Request :=
  { r with name := none, continent := none, iso2 := none, iso3 := none, countryCode := none }

/-- **The filters of a request one by one**: the requests that have one of them and no other. -/
def singles (r : Request) : List Request :=
  [{ r.bare with name := r.name }, { r.bare with continent := r.continent },
    { r.bare with iso2 := r.iso2 }, { r.bare with iso3 := r.iso3 },
    { r.bare with countryCode := r.countryCode }]

/-- **A request has no filters but those of another one.** -/
structure Relaxes (q r : Request) : Prop where
  name : ∀ part ∈ q.name, part ∈ r.name
  continent : ∀ part ∈ q.continent, part ∈ r.continent
  iso2 : ∀ code ∈ q.iso2, code ∈ r.iso2
  iso3 : ∀ code ∈ q.iso3, code ∈ r.iso3
  countryCode : ∀ code ∈ q.countryCode, code ∈ r.countryCode

theorem pageSize_of_mem_singles {q r : Request} (h : q ∈ r.singles) : q.pageSize = r.pageSize := by
  simp only [singles, List.mem_cons, List.not_mem_nil, or_false] at h
  rcases h with rfl | rfl | rfl | rfl | rfl <;> rfl

end Search.Request

namespace Store

variable {s : Store} {q r : Request} {c : CountryRow}

/-! ## Countries that fit -/

/-- **A country fits the filters of a request**, each of which may be missing, given which
characters are alike. -/
structure Fits (Alike : Char → Char → Prop) (s : Store) (r : Request) (c : CountryRow) : Prop where
  /-- The text asked for stands in the name, -/
  name : ∀ part ∈ r.name, Occurs Alike part.toList c.name.toList
  /-- and in the continent, literally but for characters that are alike; -/
  continent : ∀ part ∈ r.continent, Occurs Alike part.toList c.continent.toList
  /-- the ISO codes are those asked for; -/
  iso2 : ∀ code ∈ r.iso2, c.iso2 = code
  iso3 : ∀ code ∈ r.iso3, c.iso3 = code
  /-- and one of the dialling codes is, be it primary or not. -/
  countryCode : ∀ code ∈ r.countryCode, ∃ k ∈ s.codes, k.countryId = c.id ∧ k.code = code

/-- No NUL is in the texts that are asked for, nor in those that are searched. -/
structure NulFree (s : Store) (r : Request) : Prop where
  name : ∀ part ∈ r.name, '\x00' ∉ part.toList
  continent : ∀ part ∈ r.continent, '\x00' ∉ part.toList
  countries : ∀ c ∈ s.countries, '\x00' ∉ c.name.toList ∧ '\x00' ∉ c.continent.toList

/-- No replacement character is in the texts that are asked for, nor what is read as one. -/
structure Unreplaced (r : Request) : Prop where
  name : ∀ part ∈ r.name, ∀ c ∈ part.toList, ¬IsReplaced c
  continent : ∀ part ∈ r.continent, ∀ c ∈ part.toList, ¬IsReplaced c

/-- Other characters may be alike if the texts asked for occur in the same texts. -/
theorem Fits.imp {Alike Alike' : Char → Char → Prop} (h : Fits Alike s r c)
    (hname : ∀ part ∈ r.name, ∀ whole,
      Occurs Alike part.toList whole → Occurs Alike' part.toList whole)
    (hcontinent : ∀ part ∈ r.continent, ∀ whole,
      Occurs Alike part.toList whole → Occurs Alike' part.toList whole) : Fits Alike' s r c where
  name part hp := hname part hp _ (h.name part hp)
  continent part hp := hcontinent part hp _ (h.continent part hp)
  iso2 := h.iso2
  iso3 := h.iso3
  countryCode := h.countryCode

/-- **Then the texts have to stand there letter by letter.** -/
theorem fits_readsAlike_iff (h : Unreplaced r) : Fits ReadsAlike s r c ↔ Fits SameLetter s r c := by
  constructor
  · intro hf
    exact hf.imp (fun part hp _ => (occurs_readsAlike_iff (h.name part hp)).mp)
      fun part hp _ => (occurs_readsAlike_iff (h.continent part hp)).mp
  · intro hf
    exact hf.imp (fun part hp _ => (occurs_readsAlike_iff (h.name part hp)).mpr)
      fun part hp _ => (occurs_readsAlike_iff (h.continent part hp)).mpr

theorem occursFolded_iff {part whole : List Char} (hp : '\x00' ∉ part) (hw : '\x00' ∉ whole) :
    occursFolded part whole ↔ Occurs ReadsAlike part whole := by
  rw [← Wildcard.finds_eq_occursFolded, Wildcard.finds_iff hp hw]

/-- **What a search accepts, fits.** -/
theorem matches_iff_fits (h : s.NulFree r) (hc : c ∈ s.countries) :
    s.Matches r c ↔ Fits ReadsAlike s r c := by
  obtain ⟨hname, hcontinent⟩ := h.countries c hc
  constructor
  · intro hm
    exact ⟨fun part hp => (occursFolded_iff (h.name part hp) hname).mp (hm.name part hp),
      fun part hp => (occursFolded_iff (h.continent part hp) hcontinent).mp (hm.continent part hp),
      fun code hcode => (hm.iso2 code hcode).symm, fun code hcode => (hm.iso3 code hcode).symm,
      hm.countryCode⟩
  · intro hf
    exact ⟨fun part hp => (occursFolded_iff (h.name part hp) hname).mpr (hf.name part hp),
      fun part hp => (occursFolded_iff (h.continent part hp) hcontinent).mpr (hf.continent part hp),
      fun code hcode => (hf.iso2 code hcode).symm, fun code hcode => (hf.iso3 code hcode).symm,
      hf.countryCode⟩

/-! ## Several filters -/

/-- What fits all filters fits fewer of them. -/
theorem Matches.relax (h : s.Matches r c) (hq : q.Relaxes r) : s.Matches q c where
  name part hp := h.name part (hq.name part hp)
  continent part hp := h.continent part (hq.continent part hp)
  iso2 code hc := h.iso2 code (hq.iso2 code hc)
  iso3 code hc := h.iso3 code (hq.iso3 code hc)
  countryCode code hc := h.countryCode code (hq.countryCode code hc)

/-- **Fewer filters leave no fewer countries.** -/
theorem found_sublist (hq : q.Relaxes r) : (s.found r).Sublist (s.found q) := by
  refine List.monotone_filter_right s.countries fun c hc => ?_
  exact accepts_iff.mpr ((accepts_iff.mp hc).relax hq)

theorem matches_iff_singles : s.Matches r c ↔ ∀ q ∈ r.singles, s.Matches q c := by
  constructor
  · intro h q hq
    simp only [Request.singles, List.mem_cons, List.not_mem_nil, or_false] at hq
    rcases hq with rfl | rfl | rfl | rfl | rfl
    · exact ⟨h.name, nofun, nofun, nofun, nofun⟩
    · exact ⟨nofun, h.continent, nofun, nofun, nofun⟩
    · exact ⟨nofun, nofun, h.iso2, nofun, nofun⟩
    · exact ⟨nofun, nofun, nofun, h.iso3, nofun⟩
    · exact ⟨nofun, nofun, nofun, nofun, h.countryCode⟩
  · intro h
    simp only [Request.singles, List.forall_mem_cons] at h
    obtain ⟨hname, hcontinent, hiso2, hiso3, hcode, -⟩ := h
    exact ⟨hname.name, hcontinent.continent, hiso2.iso2, hiso3.iso3, hcode.countryCode⟩

/-- **The result of several filters is what those of the single ones have in common.** -/
theorem mem_result_iff_singles : c ∈ s.result r ↔ ∀ q ∈ r.singles, c ∈ s.result q := by
  simp only [mem_result]
  constructor
  · rintro ⟨hc, hm⟩ q hq
    exact ⟨hc, matches_iff_singles.mp hm q hq⟩
  · intro h
    have hfirst := h _ List.mem_cons_self
    exact ⟨hfirst.1, matches_iff_singles.mpr fun q hq => (h q hq).2⟩

/-! ## The result of a search -/

/-- **A country is in the result of a search if and only if it fits every filter**, and the pages of
the search show, and count, just that result.  Letters of ASCII are alike in either case, and so are
the replacement character and what is read as it; where no such character is asked for, only the
former are.  The result is what the results of the single filters have in common; and no page of a
request that lacks some of the filters tells of fewer countries. -/
theorem filters_literal (h : (s.countries.map (·.id)).Nodup) {v : Json}
    (hr : Request.read v = .ok r) (hnul : s.NulFree r) :
    s.Partition r (s.result r) ∧
    (∀ c, c ∈ s.result r ↔ c ∈ s.countries ∧ Fits ReadsAlike s r c) ∧
    (Unreplaced r → ∀ c, c ∈ s.result r ↔ c ∈ s.countries ∧ Fits SameLetter s r c) ∧
    (∀ q ∈ r.singles, s.Partition q (s.result q)) ∧
    (∀ c, c ∈ s.result r ↔ ∀ q ∈ r.singles, c ∈ s.result q) ∧
    ∀ q : Request, q.Relaxes r → ∀ m n,
      (s.page (r.onPage m)).totalCount ≤ (s.page (q.onPage n)).totalCount := by
  have hs := Request.one_le_pageSize hr
  have hfits : ∀ c, c ∈ s.result r ↔ c ∈ s.countries ∧ Fits ReadsAlike s r c := by
    intro c
    rw [mem_result]
    exact and_congr_right fun hc => matches_iff_fits hnul hc
  refine ⟨partition_of_nodup h hs, hfits, fun hletters c => ?_, fun q hq => ?_,
    fun c => mem_result_iff_singles, fun q hq m n => (found_sublist hq).length_le⟩
  · rw [hfits, fits_readsAlike_iff hletters]
  · exact partition_of_nodup h (Request.pageSize_of_mem_singles hq ▸ hs)

/-- Three countries, two of which have special characters in their names. -/
def signs : Store :=
  ⟨[⟨1, "50%_Land", "X", "AA", "AAA", 0, 0⟩, ⟨2, "50 LAND", "X", "BB", "BBB", 0, 0⟩,
      ⟨3, "/%_l", "X", "CC", "CCC", 0, 0⟩], [⟨1, 1, "1", true, 0, 0⟩, ⟨2, 3, "1", false, 0, 0⟩]⟩

/-- The special characters are looked for as they are, and the letter in either case. -/
theorem filters_signs :
    let request : Request := ⟨some "%_L", none, none, none, some "1", 1, 50, .name, .ascending⟩
    Request.read (.object [("name", .text "%_L"), ("countryCode", .text "1")]) = .ok request ∧
    signs.NulFree request ∧ (signs.page request).totalCount = 2 ∧
    ∀ c, c ∈ signs.result request ↔ c ∈ signs.countries ∧ Fits SameLetter signs request c := by
  intro request
  have hr : Request.read (.object [("name", .text "%_L"), ("countryCode", .text "1")]) =
    .ok request := rfl
  have hnul : signs.NulFree request := ⟨by decide, nofun, by decide⟩
  have hletters : Unreplaced request := by
    refine ⟨?_, nofun⟩
    rintro _ ⟨⟩
    exact List.forall_mem_cons.mpr ⟨by decide, List.forall_mem_cons.mpr
      ⟨by decide, List.forall_mem_singleton.mpr (by decide)⟩⟩
  exact ⟨hr, hnul, by decide +kernel, (filters_literal (by decide) hr hnul).2.2.1 hletters⟩

/-- A country whose name is the replacement character. -/
def replacement : Store := ⟨[⟨1, "\uFFFD", "X", "AA", "AAA", 0, 0⟩], []⟩

/-- **It is found under a noncharacter** that does not stand in its name. -/
theorem replacement_found :
    let request : Request := ⟨some "\uFFFE", none, none, none, none, 1, 50, .name, .ascending⟩
    Request.read (.object [("name", .text "\uFFFE")]) = .ok request ∧
    replacement.NulFree request ∧
    ∃ c ∈ replacement.result request, ¬Fits SameLetter replacement request c := by
  intro request
  refine ⟨rfl, ⟨by decide, nofun, by decide⟩, ⟨1, "\uFFFD", "X", "AA", "AAA", 0, 0⟩, ?_,
    fun h => ?_⟩
  · decide +kernel
  · obtain ⟨before, middle, after, hwhole, hmiddle⟩ := h.name "\uFFFE" rfl
    cases hmiddle with
    | @cons c d _ _ hcd _ =>
      have hd : d ∈ ['\uFFFD'] := by
        rw [show ['\uFFFD'] = _ from hwhole]
        simp
      rw [List.mem_singleton.mp hd] at hcd
      rcases hcd with hcd | ⟨halpha, -⟩
      · exact absurd hcd (by decide)
      · exact absurd halpha (by decide)

end Store

end Gazetteer
