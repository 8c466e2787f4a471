import Gazetteer.Proofs.Store.Order
import Gazetteer.Proofs.Text.Wildcard

/-!
# Pages make up the result

The pages of a search, one after the other, are the whole result in order.  Every one of them tells
how many countries there are in all, and every one before the last that holds anything is full.

* `length_pageOf`, `flatMap_pageOf`: pages of a list;
* `Matches`, `accepts_iff`: what a country has to be like; `result`: all that are like it, in order;
* `lastPage`, `lt_iff_le_lastPage`: the last page that holds anything;
* `Partition`, `partition_of_nodup`: how the pages of a search hang together;
* `readThrough_eq`: what they show, one after the other;
* `page_eq_of_perm`: a page does not depend on the order of the rows in the table.
-/

namespace Gazetteer

open Text

/-- The request for another page of the same result. -/
def Search.Request.onPage (r : Search.Request) (number : Nat) : Search.Request :=
  { r with pageNumber := number }

namespace Store

open Search

variable {s t : Store} {r : Request}

/-! ## Pages of a list -/

section
variable {α : Type} (number size : Nat) (xs : List α)

theorem length_pageOf :
    (pageOf number size xs).length = min size (xs.length - (number - 1) * size) := by
  simp [pageOf]

/-- **The first pages of a list, one after the other**, are the beginning of the list. -/
theorem flatMap_pageOf :
    (List.range number).flatMap (fun i => pageOf (i + 1) size xs) = xs.take (number * size) := by
  induction number with
  | zero => simp
  | succ n ih =>
    rw [List.range_succ, List.flatMap_append, ih, List.flatMap_singleton, Nat.succ_mul,
      List.take_add, pageOf, Nat.add_sub_cancel]

/-- The last page that holds anything of a result, or zero. -/
def lastPage (total size : Nat) : Nat := (total + size - 1) / size

variable {number size} {total : Nat}

/-- **A page holds something if and only if it is not after the last one.** -/
theorem lt_iff_le_lastPage (hs : 1 ≤ size) (hn : 1 ≤ number) :
    (number - 1) * size < total ↔ number ≤ lastPage total size := by
  obtain ⟨n, rfl⟩ : ∃ n, number = n + 1 := ⟨number - 1, by omega⟩
  rw [lastPage, Nat.le_div_iff_mul_le (by omega), Nat.succ_mul, Nat.add_sub_cancel]
  omega

theorem le_lastPage_mul (hs : 1 ≤ size) : total ≤ lastPage total size * size := by
  have hdiv := Nat.div_add_mod (total + size - 1) size
  have hmod := Nat.mod_lt (total + size - 1) hs
  rw [lastPage, Nat.mul_comm]
  omega

end

/-! ## The countries that match -/

/-- **Whether a country is what a request asks for**: every filter that is given occurs in its name
and its continent, is its two-letter and its three-letter code, and is one of its dialling codes. -/
structure Matches (s : Store) (r : Request) (c : CountryRow) : Prop where
  name : ∀ part ∈ r.name, occursFolded part.toList c.name.toList
  continent : ∀ part ∈ r.continent, occursFolded part.toList c.continent.toList
  iso2 : ∀ code ∈ r.iso2, code = c.iso2
  iso3 : ∀ code ∈ r.iso3, code = c.iso3
  countryCode : ∀ code ∈ r.countryCode, ∃ k ∈ s.codes, k.countryId = c.id ∧ k.code = code

theorem given_iff {filter : Option String} {accepts : String → Bool} :
    given filter accepts ↔ ∀ x ∈ filter, accepts x := by
  cases filter <;> simp [given]

theorem accepts_iff {c : CountryRow} : s.accepts r c ↔ s.Matches r c := by
  simp only [accepts, Bool.and_eq_true, given_iff, decide_eq_true_eq, List.any_eq_true,
    Wildcard.finds_eq_occursFolded]
  constructor
  · rintro ⟨⟨⟨⟨hname, hcontinent⟩, hiso2⟩, hiso3⟩, hcode⟩
    exact ⟨hname, hcontinent, hiso2, hiso3, hcode⟩
  · rintro ⟨hname, hcontinent, hiso2, hiso3, hcode⟩
    exact ⟨⟨⟨⟨hname, hcontinent⟩, hiso2⟩, hiso3⟩, hcode⟩

theorem mem_found {c : CountryRow} : c ∈ s.found r ↔ c ∈ s.countries ∧ s.Matches r c := by
  rw [found, List.mem_filter, accepts_iff]

theorem nodup_found (h : (s.countries.map (·.id)).Nodup) (r : Request) :
    ((s.found r).map (·.id)).Nodup :=
  h.sublist (List.filter_sublist.map _)

/-! ## The pages of a search -/

/-- **The whole result of a search**, in the order that is asked for. -/
def result (s : Store) (r : Request) : List CountryRow :=
  s.ordered r.sortBy r.direction (s.found r)

theorem mem_result {c : CountryRow} : c ∈ s.result r ↔ c ∈ s.countries ∧ s.Matches r c :=
  (s.ordered_perm r.sortBy r.direction (s.found r)).mem_iff.trans mem_found

@[simp] theorem length_result (s : Store) (r : Request) :
    (s.result r).length = (s.found r).length :=
  length_ordered ..

theorem items_onPage (s : Store) (r : Request) (number : Nat) : (s.page (r.onPage number)).items =
    (pageOf number r.pageSize (s.result r)).map s.detail := rfl

/-- **The pages of a search make up a result**, `all`, which is in order. -/
structure Partition (s : Store) (r : Request) (all : List CountryRow) : Prop where
  /-- No country is there twice, -/
  ids : (all.map (·.id)).Nodup
  /-- and those are there that match, and no others, -/
  mem : ∀ c, c ∈ all ↔ c ∈ s.countries ∧ s.Matches r c
  /-- in the order that is asked for. -/
  inOrder : all.Pairwise fun a b => s.leads r.sortBy r.direction a b
  /-- All pages tell how many there are. -/
  total : ∀ number, (s.page (r.onPage number)).totalCount = all.length
  length : ∀ number, 1 ≤ number → (s.page (r.onPage number)).items.length =
    min r.pageSize (all.length - (number - 1) * r.pageSize)
  /-- There is a last page that holds anything, all before it are full, -/
  nonempty : ∀ number, 1 ≤ number →
    ((s.page (r.onPage number)).items ≠ [] ↔ number ≤ lastPage all.length r.pageSize)
  full : ∀ number, 1 ≤ number → number < lastPage all.length r.pageSize →
    (s.page (r.onPage number)).items.length = r.pageSize
  /-- and the pages up to it are the result. -/
  whole : (List.range (lastPage all.length r.pageSize)).flatMap
    (fun i => (s.page (r.onPage (i + 1))).items) = all.map s.detail

/-- **The pages of a search make up its result.** -/
theorem partition_of_nodup (h : (s.countries.map (·.id)).Nodup) (hs : 1 ≤ r.pageSize) :
    s.Partition r (s.result r) := by
  have hperm := s.ordered_perm r.sortBy r.direction (s.found r)
  have hlength : ∀ number, 1 ≤ number → (s.page (r.onPage number)).items.length =
      min r.pageSize ((s.result r).length - (number - 1) * r.pageSize) := by
    intro number _
    rw [items_onPage, List.length_map, length_pageOf]
  refine ⟨(hperm.map _).nodup_iff.mpr (nodup_found h r), fun c => mem_result,
    s.pairwise_ordered _ _ _, fun number => (length_result s r).symm, hlength, ?_, ?_, ?_⟩
  · intro number hn
    rw [← lt_iff_le_lastPage hs hn, ← List.length_pos_iff, hlength number hn]
    omega
  · intro number hn hlt
    have hnext := (lt_iff_le_lastPage hs (show 1 ≤ number + 1 by omega)).mpr hlt
    rw [hlength number hn]
    obtain ⟨n, rfl⟩ : ∃ n, number = n + 1 := ⟨number - 1, by omega⟩
    rw [Nat.add_sub_cancel, Nat.succ_mul] at hnext
    rw [Nat.add_sub_cancel]
    omega
  · simp only [items_onPage]
    rw [← List.map_flatMap, flatMap_pageOf, List.take_of_length_le (le_lastPage_mul hs)]

/-- What the pages of a search show, one after the other up to the last that holds anything. -/
def readThrough (s : Store) (r : Request) : List Country.Detail :=
  (List.range (lastPage (s.page r).totalCount r.pageSize)).flatMap
    fun i => (s.page (r.onPage (i + 1))).items

/-- **Whoever reads all pages reads the whole result.** -/
theorem readThrough_eq (h : (s.countries.map (·.id)).Nodup) (hs : 1 ≤ r.pageSize) :
    s.readThrough r = (s.result r).map s.detail := by
  rw [← (partition_of_nodup h hs).whole, length_result]
  rfl

/-- **A page does not depend on the order of the rows in the table.** -/
theorem page_eq_of_perm (h : (s.countries.map (·.id)).Nodup) (hc : s.countries.Perm t.countries)
    (hk : s.codes = t.codes) (r : Request) : s.page r = t.page r := by
  obtain ⟨cs, codes⟩ := s
  obtain ⟨ds, codes'⟩ := t
  obtain rfl : codes = codes' := hk
  have hfound : (found ⟨cs, codes⟩ r).Perm (found ⟨ds, codes⟩ r) := hc.filter _
  have hrows : rows ⟨cs, codes⟩ r = rows ⟨ds, codes⟩ r :=
    congrArg (pageOf r.pageNumber r.pageSize)
      (ordered_eq_of_perm (nodup_found h r) hfound r.sortBy r.direction)
  unfold page
  rw [hrows, hfound.length_eq]
  rfl

end Store

end Gazetteer
