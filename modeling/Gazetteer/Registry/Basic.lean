import Gazetteer.Registry.Conflict
import Gazetteer.Registry.Query
import Gazetteer.Settings.Basic
import Gazetteer.Store.Probe
import Gazetteer.Store.Session

/-!
# The registry of countries

A `Registry` is the two tables with a cache in front of them and a clock.  Reading goes through the
cache; writing goes to the tables, in a session for each write, and after every write that succeeds
all readings are forgotten.

* `read`: the answer of a query, from the cache if it is there;
* `conflict`, `contains`: what the tables say before a draft is written;
* `create`, `update`, `delete`: writing a draft.
-/

namespace Gazetteer

open Number

/-- **The tables, the cache in front of them and the clock.** -/
structure Registry where
  store : Store
  cache : Cache Reading
  /-- The time in seconds. -/
  clock : Quantity
  lifetimes : Lifetimes

namespace Registry

/-- **Why a registry does not do what it is asked for.** -/
inductive Fault where
  | refused (fault : Store.Fault)
  | uncached (fault : CacheFault)
  | untimely (fault : ClockFault)
  deriving DecidableEq, Repr

/-- The wording of a fault. -/
def Fault.message : Fault → String
  | .refused fault => fault.message
  | .uncached fault => fault.message
  | .untimely fault => fault.message

/-! ## Setting up -/

/-- The lifetimes that settings ask for. -/
def lifetimesOf (s : Settings) : Lifetimes :=
  ⟨s.retention.countrySeconds, s.retention.searchSeconds⟩

/-- The cache that settings ask for; if it is switched off, it keeps nothing. -/
def cacheOf (s : Settings) : Cache Reading :=
  .empty s.retention.capacity.toNat s.retention.isEnabled

/-- A registry without countries, at time zero. -/
def empty (s : Settings) (cache : Cache Reading) : Registry := ⟨.empty, cache, 0, lifetimesOf s⟩

/-- The instant that the clock shows.  An operation looks at the clock once, as it begins: all rows
that it writes have this instant, also those in which a table fills in the time by itself. -/
def now (r : Registry) : Except Fault Instant := (Instant.ofClock r.clock).mapError .untimely

/-- A registry after some seconds. -/
def advance (r : Registry) (seconds : Quantity) : Except Fault Registry :=
  match Clock.advance r.clock seconds with
  | .ok clock => .ok { r with clock }
  | .error fault => .error (.untimely fault)

/-- A registry whose cache holds no dead readings. -/
def sweep (r : Registry) : Registry := { r with cache := r.cache.sweep r.clock }

/-! ## Reading -/

/-- Keeps a reading that was loaded in a generation, and answers it. -/
def keep (r : Registry) (generation : Nat) (q : Query) (reading : Reading) :
    Except Fault (Option Reading) × Registry :=
  match r.cache.setIfCurrent r.clock generation q.key reading
      (.seconds (.whole (q.lifetime r.lifetimes))) (.units reading.cost) with
  | .ok cache => (.ok (some reading), { r with cache })
  | .error fault => (.error (.uncached fault), r)

/-- **The answer of a query.**  It is loaded from the tables only if it is not in the cache, and
kept there if there is one. -/
def read (r : Registry) (q : Query) : Except Fault (Option Reading) × Registry :=
  match r.cache.get r.clock q.key with
  | (some reading, cache) => (.ok (some reading), { r with cache })
  | (none, cache) =>
    let r := { r with cache }
    match q.load r.store with
    | .error fault => (.error (.refused fault), r)
    | .ok none => (.ok none, r)
    | .ok (some reading) => r.keep cache.generation q reading

/-- The country with a number. -/
def country (r : Registry) (id : Int) : Except Fault (Option Country.Detail) × Registry :=
  ((r.read (.country id)).1.map (·.bind Reading.detail?), (r.read (.country id)).2)

/-- The page that is asked for. -/
def search (r : Registry) (request : Search.Request) :
    Except Fault (Option Country.Page) × Registry :=
  ((r.read (.search request)).1.map (·.bind Reading.page?), (r.read (.search request)).2)

/-- All continents. -/
def continents (r : Registry) : Except Fault (Option (List String)) × Registry :=
  ((r.read .continents).1.map (·.bind Reading.continents?), (r.read .continents).2)

/-! ## Asking before writing -/

/-- Whether a country has a number. -/
def contains (r : Registry) (id : Int) : Except Fault Bool :=
  (r.store.contains id).mapError .refused

/-- The first value of a draft that a country other than the excluded one has. -/
def conflict (r : Registry) (d : Country.Draft) (excluded : Option Int) :
    Except Fault (Option Conflict) :=
  (Gazetteer.conflict r.store d.fields excluded).mapError .refused

/-! ## Writing -/

/-- Forgets the readings whose keys begin with a text, and tells how many there were. -/
def invalidate (r : Registry) (family : String) : Nat × Registry :=
  ((r.cache.invalidate r.clock family).1, { r with cache := (r.cache.invalidate r.clock family).2 })

/-- The registry after a write. -/
def wrote (r : Registry) (store : Store) : Registry := ({ r with store }.invalidate Key.family).2

/-- Work on the tables at the time that the clock shows: its answer and the tables after it. -/
def conduct (r : Registry) (w : Instant → Store.Work α) : Except Fault α × Store :=
  match r.now with
  | .error fault => (.error fault, r.store)
  | .ok now => ((r.store.conduct (w now)).1.mapError .refused, (r.store.conduct (w now)).2)

/-- Work on a country; nothing if there is no such country, and then the time does not matter. -/
def conductOn (r : Registry) (id : Int) (w : Instant → Store.Work (Option α)) :
    Except Fault (Option α) × Store :=
  match r.contains id with
  | .error fault => (.error fault, r.store)
  | .ok false => (.ok none, r.store)
  | .ok true => r.conduct w

/-- **Creates the country of a draft.** -/
def create (r : Registry) (d : Country.Draft) : Except Fault Country.Detail × Registry :=
  match r.conduct fun now => (Store.Work.create now (Store.columns d.fields) true).undone with
  | (.error fault, store) => (.error fault, { r with store })
  | (.ok (_, detail), store) => (.ok detail, r.wrote store)

/-- **Replaces a country by that of a draft**; nothing if there is no such country. -/
def update (r : Registry) (id : Int) (d : Country.Draft) :
    Except Fault (Option Country.Detail) × Registry :=
  match r.conductOn id fun now =>
      (Store.Work.replace now id (Store.columns d.fields) true).undone with
  | (.error fault, store) => (.error fault, { r with store })
  | (.ok none, store) => (.ok none, { r with store })
  | (.ok (some (_, detail)), store) => (.ok (some detail), r.wrote store)

/-- **Deletes a country**, and tells whether there was one. -/
def delete (r : Registry) (id : Int) : Except Fault Bool × Registry :=
  match r.store.conduct (Store.Work.remove id true).undone with
  | (.error fault, store) => (.error (.refused fault), { r with store })
  | (.ok false, store) => (.ok false, { r with store })
  | (.ok true, store) => (.ok true, r.wrote store)

end Registry

end Gazetteer
