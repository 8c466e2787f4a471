import Gazetteer.Country.Detail

/-!
# Pages of countries

A `Page` is one page of the result of a search, along with the size of the whole result.  The number
of pages is the quotient of the two sizes in double precision, rounded up; it is exact for results
of up to `2 ^ 53` countries and undefined where the quotient is beyond all doubles.

* `Page.read`, `Page.json?`: a page from and to a JSON value; `Page.jsonBy?`: the latter, given how
  texts are written;
* `Page.totalPages?`, `Page.hasPrevious`, `Page.hasNext`: what follows from its numbers.
-/

namespace Gazetteer.Country

open Number Validation

/-- **One page of a result.** -/
structure Page (τ : Type := String) where
  items : List (Detail τ)
  totalCount : Nat
  pageNumber : Nat
  pageSize : Nat
  deriving DecidableEq, Repr

namespace Page

variable {τ σ : Type}

/-- A count from `least` on. -/
def count (least : Nat) (v : Json) : Checked Nat := Int.toNat <$> atLeast least v

def ofFields (fields : List (String × Json)) : Checked (Page (List Nat)) :=
  Page.mk
    <$> required ["items"] (Validation.items Detail.read) fields
    <*> required ["totalCount", "total_count"] (count 0) fields
    <*> withDefault ["pageNumber", "page_number"] 1 (count 1) fields
    <*> withDefault ["pageSize", "page_size"] 50 (count 1) fields

/-- The kind of record under which a page is refused. -/
def kind : String := "PagedResult[CountryDetail]"

/-- **The page that a value shows.** -/
def read (v : Json) : Checked (Page (List Nat)) := record (.recordExpected kind) ofFields v

/-- The number of pages of the whole result. -/
def totalPages? (p : Page τ) : Option Nat :=
  (Binary64.ofQuotient false p.totalCount p.pageSize).ceil?

/-- Whether a page comes before this one. -/
def hasPrevious (p : Page τ) : Bool := 1 < p.pageNumber

/-- Whether a page comes after this one, of so many pages. -/
def hasNext (p : Page τ) (totalPages : Nat) : Bool := p.pageNumber < totalPages

/-- A page as a value, given how texts are written, if the number of pages is defined. -/
def jsonBy? (write : τ → Json) (p : Page τ) : Option Json :=
  p.totalPages?.map fun (totalPages : Nat) =>
    .object [("items", .array (p.items.map (Detail.jsonBy write))),
      ("totalCount", .int p.totalCount), ("pageNumber", .int p.pageNumber),
      ("pageSize", .int p.pageSize), ("totalPages", .int totalPages),
      ("hasPreviousPage", .bool p.hasPrevious), ("hasNextPage", .bool (p.hasNext totalPages))]

/-- **A page as a value**, if the number of pages is defined. -/
def json? (p : Page) : Option Json := p.jsonBy? .text

/-- A page with another kind of texts. -/
def map (f : τ → σ) (p : Page τ) : Page σ where
  items := p.items.map (Detail.map f)
  totalCount := p.totalCount
  pageNumber := p.pageNumber
  pageSize := p.pageSize

end Page

end Gazetteer.Country
