import Gazetteer.Cache.Basic
import Gazetteer.Registry.Key
import Gazetteer.Store.Search

/-!
# Queries

A `Query` is a question whose answer is worth keeping for a while.  Each query has a key, a way to
be answered from the tables, and a lifetime; each answer has a cost.

* `Query.key`, `Query.load`, `Query.lifetime`, `Reading.cost`.
-/

namespace Gazetteer

/-- **A question to the tables.** -/
inductive Query where
  | country (id : Int)
  | search (request : Search.Request)
  | continents
  deriving DecidableEq, Repr

/-- **What is read from the tables.** -/
inductive Reading where
  | country (detail : Country.Detail)
  | page (page : Country.Page)
  | continents (names : List String)
  deriving DecidableEq, Repr

/-- How long readings are kept, in seconds. -/
structure Lifetimes where
  /-- The lifetime of countries and of the list of continents. -/
  country : Int
  /-- The lifetime of pages. -/
  search : Int
  deriving DecidableEq, Repr

namespace Reading

/-- **What it costs to keep a reading**: as much as there are countries on a page, at least one. -/
def cost : Reading → Nat
  | .page p => max p.items.length 1
  | .country _ | .continents _ => 1

def detail? : Reading → Option Country.Detail
  | .country d => some d
  | _ => none

def page? : Reading → Option Country.Page
  | .page p => some p
  | _ => none

def continents? : Reading → Option (List String)
  | .continents names => some names
  | _ => none

end Reading

namespace Query

/-- The name under which the answer is kept. -/
def key : Query → String
  | .country id => Key.country id
  | .search r => Key.search r
  | .continents => Key.continents

/-- How long the answer is kept. -/
def lifetime (l : Lifetimes) : Query → Int
  | .search _ => l.search
  | .country _ | .continents => l.country

/-- **The answer that the tables give**; nothing if there is no such country. -/
def load (s : Store) : Query → Except Store.Fault (Option Reading)
  | .country id => do
    Store.checkId id
    .ok ((s.detail? id).map .country)
  | .search r => .ok (some (.page (s.page r)))
  | .continents => .ok (some (.continents s.continents))

end Query

end Gazetteer
