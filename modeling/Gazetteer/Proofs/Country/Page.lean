import Gazetteer.Proofs.Number.Ceiling
import Gazetteer.Proofs.Store.Paging

/-!
# The numbers of a page

A page tells the number of pages and whether another one follows.  The number of pages comes from a
quotient in double precision, which is exact once it is rounded up, for results of up to `2 ^ 53`
countries; a page that is said to follow is then one that holds something.

* `totalPages?_eq`: the number of pages;
* `ExactlyCounted`, `exists_totalPages`: what a page tells is so.
-/

namespace Gazetteer.Country.Page

open Number Search

variable {τ : Type} {p : Page τ}

/-- **The number of pages is the exact quotient rounded up.** -/
theorem totalPages?_eq (ht : p.totalCount ≤ 2 ^ 53) (hs : 1 ≤ p.pageSize)
    (hs₅₃ : p.pageSize ≤ 2 ^ 53) :
    p.totalPages? = some ⌈(p.totalCount / p.pageSize : ℚ)⌉₊ :=
  Binary64.ceil?_ofQuotient ht hs hs₅₃

theorem lt_ceil_iff {t s n : Nat} (hs : 1 ≤ s) : n < ⌈(t / s : ℚ)⌉₊ ↔ n * s < t := by
  rw [← ceilDiv_eq_ceil t hs, ← not_le, ceilDiv_le_iff hs, not_le]

theorem pageOf_succ_ne_nil_iff {α : Type} {number size : Nat} (hs : 1 ≤ size) (xs : List α) :
    Store.pageOf (number + 1) size xs ≠ [] ↔ number * size < xs.length := by
  rw [← List.length_pos_iff, Store.length_pageOf, Nat.add_sub_cancel]
  omega

/-- **What a page tells about the others is so.** -/
structure ExactlyCounted (p : Page τ) (pages : Nat) : Prop where
  /-- There are as many pages as the result fills, the last one perhaps in part, -/
  pages_eq : (pages : ℤ) = ⌈(p.totalCount / p.pageSize : ℚ)⌉
  /-- another page follows if and only if there is more than the pages up to this one hold, -/
  hasNext : p.hasNext pages ↔ p.pageNumber * p.pageSize < p.totalCount
  /-- that is, if the next page of a list of this length holds something, -/
  holds : ∀ all : List (Detail τ), all.length = p.totalCount →
    (p.hasNext pages ↔ Store.pageOf (p.pageNumber + 1) p.pageSize all ≠ [])
  /-- in particular the next page of the search that this page is from. -/
  found : ∀ (f : String → τ) (s : Store) (r : Request), (s.page r).map f = p →
    (p.hasNext pages ↔ (s.page (r.onPage (p.pageNumber + 1))).items ≠ [])

/-- **A page of a result of up to `2 ^ 53` countries has a number of pages, and it is exact.** -/
theorem exists_totalPages (ht : p.totalCount ≤ 2 ^ 53) (hs : 1 ≤ p.pageSize)
    (hs₅₃ : p.pageSize ≤ 2 ^ 53) (hn : 1 ≤ p.pageNumber) :
    ∃ pages, p.totalPages? = some pages ∧ p.ExactlyCounted pages := by
  have hnext : p.hasNext ⌈(p.totalCount / p.pageSize : ℚ)⌉₊ ↔
      p.pageNumber * p.pageSize < p.totalCount := by
    rw [hasNext, decide_eq_true_iff, lt_ceil_iff hs]
  refine ⟨_, totalPages?_eq ht hs hs₅₃, ?_, hnext, ?_, ?_⟩
  · exact Int.natCast_ceil_eq_ceil (by positivity)
  · intro all hall
    rw [hnext, pageOf_succ_ne_nil_iff hs, hall]
  · rintro f s r rfl
    have hcount : ((s.page r).map f).totalCount = (s.result r).length :=
      (Store.length_result s r).symm
    rw [hnext, Store.items_onPage, Ne, List.map_eq_nil_iff, hcount]
    exact (pageOf_succ_ne_nil_iff hs _).symm

/-- The third page of the largest result, cut into three. -/
theorem exists_totalPages_largest :
    let page : Page := ⟨[], 2 ^ 53, 3, 2 ^ 53 / 3 + 1⟩
    ∃ pages, page.totalPages? = some pages ∧ page.ExactlyCounted pages :=
  exists_totalPages le_rfl (by decide) (by decide) (by decide)

/-- One country more, and the last page is lost. -/
example : (⟨[], 2 ^ 53 + 1, 1, 1⟩ : Page).totalPages? = some (2 ^ 53) := by decide

end Gazetteer.Country.Page
