import Gazetteer.Time.Clock

/-!
# The cache

A cache keeps values under keys, each for a limited time and at a cost.  The costs of all entries
together never exceed the capacity: to make room, entries that are no longer live go first, then the
least recently used ones.  Time is a number of seconds, and every operation is told what time it is.
An entry that is dead stays until it is swept out, and would be live again if time went back.

* `get`, `contains`, `set`, `invalidate`, `clear`: the operations;
* `generation`, `setIfCurrent`: a value that was loaded while the cache was invalidated is not kept;
* `keys`, `size`, `count`: what is live at a time; `sweep`: nothing else remains;
* `makeRoom_suffix`, `total_makeRoom_le`: making room drops from the front, and it does make room.
-/

namespace Gazetteer

open Number

/-- Why an operation on a cache fails. -/
inductive CacheFault where
  | negativeCapacity
  | negativeCost
  /-- A value that has no size, of the given kind. -/
  | unmeasurable (kind : String)
  /-- A cost of the given kind, which is no number. -/
  | improperCost (kind : String)
  /-- A lifetime of the second kind, which is no number, at a time of the first one. -/
  | improperLifetime (clock kind : String)
  | timing (fault : ClockFault)
  /-- A failure to load a value. -/
  | loading (reason : String)
  deriving DecidableEq, Repr

/-- The wording of a fault. -/
def CacheFault.message : CacheFault → String
  | .negativeCapacity => "maxsize must be non-negative"
  | .negativeCost => "value size must be non-negative"
  | .unmeasurable kind => "object of type '" ++ kind ++ "' has no len()"
  | .improperCost kind => "'>' not supported between instances of '" ++ kind ++ "' and 'int'"
  | .improperLifetime clock kind =>
    "unsupported operand type(s) for +: '" ++ clock ++ "' and '" ++ kind ++ "'"
  | .timing fault => fault.message
  | .loading reason => reason

/-- What a value is said to cost. -/
inductive Cost where
  | units (n : Int)
  /-- Something of the given kind, which is no number. -/
  | improper (kind : String)
  deriving DecidableEq, Repr

/-- How long a value is said to be kept. -/
inductive Lifetime where
  | seconds (n : Quantity)
  /-- Something of the given kind, which is no number. -/
  | improper (kind : String)
  deriving DecidableEq, Repr

/-- The time at which a lifetime that begins now is over. -/
def Lifetime.expiry (now : Quantity) : Lifetime → Except CacheFault Quantity
  | .seconds n => (Clock.advance now n).mapError .timing
  | .improper kind => .error (.improperLifetime now.kindName kind)

/-- A value in a cache. -/
structure CacheEntry (α : Type) where
  key : String
  /-- The value, or that there is none. -/
  value : Option α
  /-- The time from which on the entry is dead. -/
  expiry : Quantity
  cost : Nat
  deriving Repr

/-- Whether an entry is live at a time. -/
def CacheEntry.isLive (now : Quantity) (e : CacheEntry α) : Bool := now.lt e.expiry

/-- **A cache.** -/
structure Cache (α : Type) where
  /-- What the entries may cost together. -/
  capacity : Nat
  /-- Whether anything is kept at all. -/
  retains : Bool
  /-- How many times the cache has been invalidated. -/
  generation : Nat
  /-- The entries, the least recently used one first. -/
  entries : List (CacheEntry α)
  deriving Repr

namespace Cache

/-- An empty cache. -/
def empty (capacity : Nat) (retains : Bool) : Cache α := ⟨capacity, retains, 0, []⟩

/-- An empty cache for a capacity that may be no capacity. -/
def ofCapacity (capacity : Int) (retains : Bool) : Except CacheFault (Cache α) :=
  if capacity < 0 then .error .negativeCapacity else .ok (empty capacity.toNat retains)

/-! ## What is live -/

/-- The entries that are live at a time. -/
def live (now : Quantity) (c : Cache α) : List (CacheEntry α) := c.entries.filter (·.isLive now)

/-- The live entry under a key. -/
def find? (now : Quantity) (key : String) (c : Cache α) : Option (CacheEntry α) :=
  (c.live now).find? (·.key = key)

/-- What entries cost together. -/
def total (es : List (CacheEntry α)) : Nat := es.foldr (fun e n => e.cost + n) 0

/-- **The keys of the live entries**, the least recently used one first. -/
def keys (now : Quantity) (c : Cache α) : List String := (c.live now).map (·.key)

/-- **What the live entries cost together.** -/
def size (now : Quantity) (c : Cache α) : Nat := total (c.live now)

/-- **The number of live entries.** -/
def count (now : Quantity) (c : Cache α) : Nat := (c.live now).length

/-- The cache without the entries that are dead at a time. -/
def sweep (now : Quantity) (c : Cache α) : Cache α := { c with entries := c.live now }

/-! ## Looking up -/

/-- The entries other than the one under a key. -/
def without (key : String) (es : List (CacheEntry α)) : List (CacheEntry α) :=
  es.filter (·.key ≠ key)

/-- Whether there is a live entry under a key; this is not a use of it. -/
def contains (now : Quantity) (key : String) (c : Cache α) : Bool := (c.find? now key).isSome

/-- **The live value under a key.**  Its entry becomes the most recently used one. -/
def get (now : Quantity) (key : String) (c : Cache α) : Option α × Cache α :=
  match c.find? now key with
  | some e => (e.value, { c with entries := without key c.entries ++ [e] })
  | none => (none, c)

/-! ## Storing -/

/-- The cache without the entry under a key. -/
def drop (key : String) (c : Cache α) : Cache α := { c with entries := without key c.entries }

/-- The cache without the live entry under a key. -/
def dropLive (now : Quantity) (key : String) (c : Cache α) : Cache α :=
  { c with entries := c.entries.filter fun e => !(e.key = key && e.isLive now) }

/-- Drops entries from the front until `cost` more can be afforded. -/
def makeRoom (capacity cost : Nat) : List (CacheEntry α) → List (CacheEntry α)
  | [] => []
  | e :: es => if total (e :: es) + cost ≤ capacity then e :: es else makeRoom capacity cost es

/-- The cache with an entry that is not too dear for it.  An entry under the same key is replaced,
and it counts no more while room is made. -/
def place (now : Quantity) (e : CacheEntry α) (c : Cache α) : Cache α :=
  { c with entries := makeRoom c.capacity e.cost (without e.key (c.live now)) ++ [e] }

/-- Stores a value whose cost is a number. -/
def store (now : Quantity) (key : String) (value : Option α) (lifetime : Lifetime) (cost : Int)
    (c : Cache α) : Except CacheFault (Bool × Cache α) :=
  if c.capacity < cost then .ok (false, c.dropLive now key)
  else do
    let expiry ← lifetime.expiry now
    if !now.lt expiry then .ok (true, c.drop key)
    else if cost < 0 then .error .negativeCost
    else .ok (true, c.place now ⟨key, value, expiry, cost.toNat⟩)

/-- **Stores a value for some time.**  The answer is `false` if nothing is kept because the value
alone is too dear; then, and if the lifetime is over at once, the value that was stored before goes
too. -/
def set (now : Quantity) (key : String) (value : Option α) (lifetime : Lifetime) (cost : Cost)
    (c : Cache α) : Except CacheFault (Bool × Cache α) :=
  if !c.retains then .ok (false, c)
  else match cost with
    | .units n => c.store now key value lifetime n
    | .improper kind => .error (.improperCost kind)

/-- Stores a value that was loaded in a given generation, unless that generation is over. -/
def setIfCurrent (now : Quantity) (generation : Nat) (key : String) (value : α)
    (lifetime : Lifetime) (cost : Cost) (c : Cache α) : Except CacheFault (Cache α) :=
  if generation = c.generation then (·.2) <$> c.set now key (some value) lifetime cost
  else .ok c

/-! ## Invalidating -/

/-- Whether a key begins with a text. -/
def isUnder (family key : String) : Bool := family.toList.isPrefixOf key.toList

/-- **Removes all live entries whose keys begin with `family`**, and tells how many there were. -/
def invalidate (now : Quantity) (family : String) (c : Cache α) : Nat × Cache α :=
  (((c.live now).filter fun e => isUnder family e.key).length,
    { c with
      generation := c.generation + 1
      entries := c.entries.filter fun e => !(isUnder family e.key && e.isLive now) })

/-- **Removes all entries.** -/
def clear (c : Cache α) : Cache α := { c with generation := c.generation + 1, entries := [] }

/-! ## Making room -/

theorem makeRoom_suffix (capacity cost : Nat) (es : List (CacheEntry α)) :
    makeRoom capacity cost es <:+ es := by
  induction es with
  | nil => exact List.suffix_rfl
  | cons e es ih =>
    unfold makeRoom
    split
    · exact List.suffix_rfl
    · exact ih.trans (List.suffix_cons e es)

/-- **There is room in the end.** -/
theorem total_makeRoom_le {capacity cost : Nat} (h : cost ≤ capacity) (es : List (CacheEntry α)) :
    total (makeRoom capacity cost es) + cost ≤ capacity := by
  induction es with
  | nil => simpa [makeRoom, total] using h
  | cons e es ih =>
    unfold makeRoom
    split
    · assumption
    · exact ih

/-- A list that can be afforded is left as it is. -/
theorem makeRoom_eq_self {capacity cost : Nat} {es : List (CacheEntry α)}
    (h : total es + cost ≤ capacity) : makeRoom capacity cost es = es := by
  cases es with
  | nil => rfl
  | cons e es => simp [makeRoom, h]

end Cache

end Gazetteer
