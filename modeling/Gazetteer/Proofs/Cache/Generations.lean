import Gazetteer.Proofs.Cache.Loading

/-!
# Generations

The generation of a cache tells a load that something was forgotten meanwhile, by being another one
than at its start; which one it is tells nothing.  What storing comes to depends on the capacity of
the cache, the value and the time, but not on what is there.

* `Storing`, `storing`: the ways in which storing can end;
* `bumped`, `bumped_perform`, `bumped_run`: nobody can tell in which generation a run begins.
-/

namespace Gazetteer.Cache

open Number

variable {α : Type}

/-! ## Storing, whatever is there -/

/-- **What storing comes to does not depend on what is there**: it fails, changes nothing, drops
what was stored before, or places an entry, and all caches of one capacity do the same. -/
inductive Storing (capacity : Nat) (retains : Bool) (now : Quantity) (key : String)
    (value : Option α) (lifetime : Lifetime) (cost : Cost) : Prop
  | fails (fault : CacheFault) (h : ∀ c : Cache α, c.capacity = capacity → c.retains = retains →
      c.set now key value lifetime cost = .error fault)
  | ignores (h : ∀ c : Cache α, c.capacity = capacity → c.retains = retains →
      c.set now key value lifetime cost = .ok (false, c))
  | refuses (h : ∀ c : Cache α, c.capacity = capacity → c.retains = retains →
      c.set now key value lifetime cost = .ok (false, c.dropLive now key))
  | expires (h : ∀ c : Cache α, c.capacity = capacity → c.retains = retains →
      c.set now key value lifetime cost = .ok (true, c.drop key))
  | places (e : CacheEntry α) (hk : e.key = key) (hl : e.isLive now) (hcost : cost = .units e.cost)
      (hcap : e.cost ≤ capacity)
      (h : ∀ c : Cache α, c.capacity = capacity → c.retains = retains →
        c.set now key value lifetime cost = .ok (true, c.place now e))

theorem storing (capacity : Nat) (retains : Bool) (now : Quantity) (key : String)
    (value : Option α) (lifetime : Lifetime) (cost : Cost) :
    Storing capacity retains now key value lifetime cost := by
  cases retains with
  | false => exact .ignores fun c _ hr => by simp [set, hr]
  | true =>
    cases cost with
    | improper kind => exact .fails (.improperCost kind) fun c _ hr => by simp [set, hr]
    | units n =>
      by_cases hcap : (capacity : Int) < n
      · exact .refuses fun c hc hr => by simp [set, store, hr, hc, hcap]
      cases hx : lifetime.expiry now with
      | error fault =>
        exact .fails fault fun c hc hr => by
          simp [set, store, hr, hc, hcap, hx, bind, Except.bind]
      | ok x =>
        cases hl : now.lt x with
        | false =>
          exact .expires fun c hc hr => by
            simp [set, store, hr, hc, hcap, hx, hl, bind, Except.bind]
        | true =>
          by_cases hn : n < 0
          · exact .fails .negativeCost fun c hc hr => by
              simp [set, store, hr, hc, hcap, hx, hl, hn, bind, Except.bind]
          · have hcost : Cost.units n = .units (n.toNat : Int) := by
              rw [Int.toNat_of_nonneg (by omega)]
            have hroom : n.toNat ≤ capacity := by omega
            exact .places ⟨key, value, x, n.toNat⟩ rfl hl hcost hroom fun c hc hr => by
              simp [set, store, hr, hc, hcap, hx, hl, hn, bind, Except.bind]

/-! ## Generations -/

section Generations

variable {n : Nat}

/-- The same cache, some generations on. -/
def bumped (n : Nat) (c : Cache α) : Cache α := { c with generation := c.generation + n }

/-- The same world, some generations on. -/
def World.bumped (n : Nat) (w : World α) : World α := { w with cache := w.cache.bumped n }

theorem bumped_get (c : Cache α) (now : Quantity) (key : String) :
    (c.bumped n).get now key = ((c.get now key).1, (c.get now key).2.bumped n) := by
  have hfind : (c.bumped n).find? now key = c.find? now key := rfl
  unfold get
  rw [hfind]
  cases c.find? now key <;> rfl

theorem bumped_set (c : Cache α) (now : Quantity) (key : String) (value : Option α)
    (lifetime : Lifetime) (cost : Cost) : (c.bumped n).set now key value lifetime cost =
      (c.set now key value lifetime cost).map fun x => (x.1, x.2.bumped n) := by
  cases storing c.capacity c.retains now key value lifetime cost with
  | fails fault h => rw [h c rfl rfl, h (c.bumped n) rfl rfl]; rfl
  | ignores h => rw [h c rfl rfl, h (c.bumped n) rfl rfl]; rfl
  | refuses h => rw [h c rfl rfl, h (c.bumped n) rfl rfl]; rfl
  | expires h => rw [h c rfl rfl, h (c.bumped n) rfl rfl]; rfl
  | places e _ _ _ _ h => rw [h c rfl rfl, h (c.bumped n) rfl rfl]; rfl

theorem bumped_keep (generation : Nat) (key : String) (lifetime : Lifetime) (cost : Costing α)
    (value : Option α) (w : World α) :
    keep (generation + n) key lifetime cost value (w.bumped n) =
      ((keep generation key lifetime cost value w).1,
        (keep generation key lifetime cost value w).2.bumped n) := by
  cases value with
  | none => rfl
  | some v =>
    simp only [keep]
    cases cost (some v) with
    | error fault => rfl
    | ok cost =>
      have hsame : generation + n = (w.bumped n).cache.generation ↔
          generation = w.cache.generation := Nat.add_right_cancel_iff
      have hset : (w.bumped n).cache.set (w.bumped n).clock key (some v) lifetime cost =
          (w.cache.set w.clock key (some v) lifetime cost).map fun x => (x.1, x.2.bumped n) :=
        bumped_set ..
      simp only [setIfCurrent, hsame, hset]
      by_cases hg : generation = w.cache.generation
      · simp only [hg, if_true]
        cases w.cache.set w.clock key (some v) lifetime cost <;> rfl
      · simp only [hg, if_false]

mutual
/-- **Nobody can tell the generation**: an action has the same answer some generations on, and
leaves the same world as many generations on; -/
theorem bumped_perform (n : Nat) (w : World α) (a : Action α) :
    perform (w.bumped n) a = ((perform w a).1, (perform w a).2.bumped n) := by
  cases a with
  | advance seconds =>
    simp only [perform, World.bumped]
    cases Clock.advance w.clock seconds <;> rfl
  | get key => simp only [perform, World.bumped, bumped_get]
  | set key value lifetime cost =>
    simp only [perform, World.bumped, bumped_set]
    cases w.cache.set w.clock key value lifetime cost <;> rfl
  | getOrLoad key lifetime cost during loaded =>
    simp only [perform, World.bumped, bumped_get]
    cases w.cache.get w.clock key with
    | mk hit c =>
      cases hit with
      | some v => rfl
      | none =>
        have hduring : performAll ⟨w.clock, c.bumped n⟩ during =
            ((performAll ⟨w.clock, c⟩ during).1, (performAll ⟨w.clock, c⟩ during).2.bumped n) :=
          bumped_performAll n ⟨w.clock, c⟩ during
        simp only [hduring]
        cases performAll ⟨w.clock, c⟩ during with
        | mk failed w' =>
          cases failed with
          | some fault => rfl
          | none =>
            cases loaded with
            | error fault => rfl
            | ok value => exact bumped_keep c.generation key lifetime cost value w'
  | invalidate family =>
    simp only [perform, World.bumped, Cache.bumped, invalidate, live, Nat.add_right_comm]
  | clear => simp only [perform, World.bumped, Cache.bumped, clear, Nat.add_right_comm]
  | contains | capacity | size | count => rfl

/-- so has a row of actions. -/
theorem bumped_performAll (n : Nat) (w : World α) (as : List (Action α)) :
    performAll (w.bumped n) as = ((performAll w as).1, (performAll w as).2.bumped n) := by
  cases as with
  | nil => rfl
  | cons a as =>
    simp only [performAll, bumped_perform n w a]
    cases perform w a with
    | mk answer w' =>
      cases answer with
      | error fault => rfl
      | ok answer => exact bumped_performAll n w' as
end

/-- **A run tells the same** in whichever generation it begins. -/
theorem bumped_run (n : Nat) (w : World α) (as : List (Action α)) :
    run (w.bumped n) as = (run w as).map fun x => (x.1, x.2.bumped n) := by
  induction as generalizing w with
  | nil => rfl
  | cons a as ih =>
    have hsweep : ((perform w a).2.bumped n).sweep = (perform w a).2.sweep.bumped n := rfl
    simp only [run, bumped_perform, hsweep, ih, List.map_cons]

end Generations

end Gazetteer.Cache
