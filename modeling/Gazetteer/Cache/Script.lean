import Gazetteer.Cache.Basic

/-!
# Runs of cache operations

An `Action` is one operation on a cache or the passing of time.  Loading a missing value may itself
run actions, so that a cache can be invalidated, or filled, while a value for it is on its way.

* `perform`: the answer of an action and the world after it;
* `performAll`: the effect of a row of actions, up to the first that fails;
* `run`: the answers of all actions, failed ones included.
-/

namespace Gazetteer.Cache

open Number

/-- A cache at a time. -/
structure World (α : Type) where
  /-- The time in seconds. -/
  clock : Quantity
  cache : Cache α

/-- What a value costs. -/
abbrev Costing (α : Type) := Option α → Except CacheFault Cost

/-- **An operation on a cache, or the passing of time.** -/
inductive Action (α : Type) where
  | advance (seconds : Quantity)
  | get (key : String)
  | contains (key : String)
  | set (key : String) (value : Option α) (lifetime : Lifetime) (cost : Cost)
  /-- Gets a value, and if there is none, loads it: runs actions, and fails or has a value. -/
  | getOrLoad (key : String) (lifetime : Lifetime) (cost : Costing α) (during : List (Action α))
    (loaded : Except CacheFault (Option α))
  | invalidate (family : String)
  | clear
  | capacity
  /-- Asks what the live entries cost together. -/
  | size
  /-- Asks how many live entries there are. -/
  | count

instance : Inhabited (Action α) := ⟨.clear⟩

/-- **The answer of an action.** -/
inductive Answer (α : Type) where
  | done
  | value (value : Option α)
  | truth (b : Bool)
  | number (n : Nat)
  /-- A value, and how many times it had to be loaded. -/
  | loaded (value : Option α) (times : Nat)

/-- The world without dead entries. -/
def World.sweep (w : World α) : World α := { w with cache := w.cache.sweep w.clock }

/-- Keeps a value that was loaded in a generation, and answers it. -/
def keep (generation : Nat) (key : String) (lifetime : Lifetime) (cost : Costing α)
    (value : Option α) (w : World α) : Except CacheFault (Answer α) × World α :=
  match value with
  | none => (.ok (.loaded none 1), w)
  | some v =>
    match cost (some v) with
    | .error fault => (.error fault, w)
    | .ok cost =>
      match w.cache.setIfCurrent w.clock generation key v lifetime cost with
      | .error fault => (.error fault, w)
      | .ok cache => (.ok (.loaded (some v) 1), { w with cache })

mutual
/-- **The answer of an action and the world after it.** -/
def perform (w : World α) : Action α → Except CacheFault (Answer α) × World α
  | .advance seconds =>
    match Clock.advance w.clock seconds with
    | .error fault => (.error (.timing fault), w)
    | .ok clock => (.ok .done, { w with clock })
  | .get key =>
    let (value, cache) := w.cache.get w.clock key
    (.ok (.value value), { w with cache })
  | .contains key => (.ok (.truth (w.cache.contains w.clock key)), w)
  | .set key value lifetime cost =>
    match w.cache.set w.clock key value lifetime cost with
    | .error fault => (.error fault, w)
    | .ok (isKept, cache) => (.ok (.truth isKept), { w with cache })
  | .getOrLoad key lifetime cost during loaded =>
    match w.cache.get w.clock key with
    | (some v, cache) => (.ok (.loaded (some v) 0), { w with cache })
    | (none, cache) =>
      match performAll { w with cache } during with
      | (some fault, w) => (.error fault, w)
      | (none, w) =>
        match loaded with
        | .error fault => (.error fault, w)
        | .ok value => keep cache.generation key lifetime cost value w
  | .invalidate family =>
    let (n, cache) := w.cache.invalidate w.clock family
    (.ok (.number n), { w with cache })
  | .clear => (.ok .done, { w with cache := w.cache.clear })
  | .capacity => (.ok (.number w.cache.capacity), w)
  | .size => (.ok (.number (w.cache.size w.clock)), w.sweep)
  | .count => (.ok (.number (w.cache.count w.clock)), w.sweep)

/-- The first failure in a row of actions, and the world after it. -/
def performAll (w : World α) : List (Action α) → Option CacheFault × World α
  | [] => (none, w)
  | a :: as =>
    match perform w a with
    | (.error fault, w) => (some fault, w)
    | (.ok _, w) => performAll w as
end

/-- **The answers of all actions**, each with the world after it.  Between two actions dead entries
are swept out. -/
def run (w : World α) : List (Action α) → List (Except CacheFault (Answer α) × World α)
  | [] => []
  | a :: as =>
    let (answer, after) := perform w a
    (answer, after.sweep) :: run after.sweep as

end Gazetteer.Cache
