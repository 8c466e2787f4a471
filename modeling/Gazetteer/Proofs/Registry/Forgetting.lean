import Gazetteer.Proofs.Cache.Forgetting
import Gazetteer.Proofs.Registry.Accounting
import Gazetteer.Proofs.Registry.Identity

/-!
# Invalidations

An invalidation of a family removes from the cache what is live of the family, and nothing else.  In
the cache of a registry everything is filed under a query, and the keys of all queries are of one
family, so that nothing is live once that family is invalidated.

* `Registry.Forgets`, `forgets_afterAll`: what an invalidation does after any course of a registry;
* `invalidation_exact`: what it does in a cache, and in a registry.
-/

namespace Gazetteer

open Number

namespace Registry

/-- **What an invalidation does to a registry.** -/
structure Forgets (r : Registry) : Prop where
  /-- It is told how many readings were forgotten, and nothing but the cache changes. -/
  told : ∀ family, r.perform (.invalidate family) =
    (.ok (.number ((r.cache.keys r.clock).filter (Cache.isUnder family ·)).length),
      { r with cache := (Cache.World.forget ⟨r.clock, r.cache⟩ family).cache })
  cache : ∀ family, Cache.Forgets family ⟨r.clock, r.cache⟩
  /-- If all readings are to be forgotten, all live ones are, -/
  all : (r.perform (.invalidate Key.family)).1 = .ok (.number (r.cache.count r.clock))
  nothing : (r.perform (.invalidate Key.family)).2.cache.live r.clock = []
  /-- so that no query is answered from the cache. -/
  unanswered : ∀ q : Query,
    (r.perform (.invalidate Key.family)).2.cache.contains r.clock q.key = false

/-- Everything in the cache of a registry is of one family. -/
theorem Priced.isUnder {capacity : Nat} {r : Registry} (h : r.Priced capacity)
    {e : CacheEntry Reading} (he : e ∈ r.cache.entries) : Cache.isUnder Key.family e.key := by
  obtain ⟨q, -, -, -, hkey, -⟩ := h.price e he
  exact hkey ▸ q.isUnder_key

theorem Priced.forgets {capacity : Nat} {r : Registry} (h : r.Priced capacity) : r.Forgets := by
  have hcache : ∀ family, Cache.Forgets family ⟨r.clock, r.cache⟩ := fun family =>
    Cache.Solvent.forgets (w := ⟨r.clock, r.cache⟩) h.solvent family
  have htold : ∀ family, r.perform (.invalidate family) =
      (.ok (.number ((r.cache.keys r.clock).filter (Cache.isUnder family ·)).length),
        { r with cache := (Cache.World.forget ⟨r.clock, r.cache⟩ family).cache }) := by
    intro family
    rw [← Cache.fst_invalidate]
    rfl
  have hunder : (r.cache.keys r.clock).filter (Cache.isUnder Key.family ·) =
      r.cache.keys r.clock := by
    refine List.filter_eq_self.mpr fun key hk => ?_
    obtain ⟨e, he, rfl⟩ := List.mem_map.mp hk
    exact h.isUnder (Cache.mem_live.mp he).1
  refine ⟨htold, hcache, ?_, ?_, fun q => ?_⟩
  · have hcount : (r.cache.keys r.clock).length = r.cache.count r.clock := List.length_map _
    rw [htold, hunder, hcount]
  · rw [htold]
    refine (hcache Key.family).left.trans (List.filter_eq_nil_iff.mpr fun e he => ?_)
    simp [h.isUnder (Cache.mem_live.mp he).1]
  · exact Cache.contains_invalidate q.isUnder_key r.cache r.clock

/-- **So it is after every course** of a registry that begins without countries. -/
theorem forgets_afterAll (capacity : Nat) (retains : Bool) (clock : Quantity)
    (lifetimes : Lifetimes) (events : List Event) :
    (afterAll ⟨.empty, .empty capacity retains, clock, lifetimes⟩ events).Forgets :=
  (priced_afterAll (priced_empty capacity retains clock lifetimes) events).forgets

end Registry

/-- **An invalidation is exact**: at any point of any run of a cache, whichever family is
invalidated, and after any course of a registry, where nothing is live once all readings are
forgotten. -/
theorem invalidation_exact {α : Type} {capacity : Nat} {retains : Bool} {clock : Quantity}
    {h : List (Cache.Note α)} {us : List String} {w : Cache.World α}
    (hc : Cache.Course ⟨clock, .empty capacity retains⟩ h us w) :
    (∀ family, Cache.Forgets family w) ∧
      ∀ (room : Nat) (keeps : Bool) (start : Quantity) (lifetimes : Lifetimes)
        (events : List Event),
        (Registry.afterAll ⟨.empty, .empty room keeps, start, lifetimes⟩ events).Forgets := by
  have hsolvent := hc.solvent (Cache.solvent_empty capacity retains)
  exact ⟨hsolvent.forgets, Registry.forgets_afterAll⟩

/-- Two cities and two rivers, one of them dead after ten seconds. -/
def places : List (Cache.Action Nat) :=
  [.set "city:a" (some 1) (.seconds 60) (.units 1),
    .set "river:b" (some 2) (.seconds 60) (.units 2),
    .set "city:c" (some 3) (.seconds 5) (.units 1),
    .set "city:d" (some 4) (.seconds 60) (.units 3),
    .set "river:e" (some 5) (.seconds 60) (.units 1), .advance 10]

theorem invalidation_places :
    let w := Cache.World.after ⟨0, .empty 8 true⟩ places
    let crowd : List (Cache.Action Nat) := [.set "lake:f" (some 6) (.seconds 60) (.units 5),
      .set "lake:g" (some 7) (.seconds 60) (.units 3)]
    w.cache.keys 10 = ["city:a", "river:b", "city:d", "river:e"] ∧
    (w.forget "city:").cache.keys 10 = ["river:b", "river:e"] ∧
    Cache.evicted (Cache.record w crowd) = ["city:a", "river:b", "city:d", "river:e"] ∧
    Cache.evicted (Cache.record (w.forget "city:") crowd) = ["river:b", "river:e"] ∧
    ((∀ family, Cache.Forgets family w) ∧
      ∀ (room : Nat) (keeps : Bool) (start : Quantity) (lifetimes : Lifetimes)
        (events : List Event),
        (Registry.afterAll ⟨.empty, .empty room keeps, start, lifetimes⟩ events).Forgets) := by
  exact ⟨by decide +kernel, by decide +kernel, by decide +kernel, by decide +kernel,
    invalidation_exact (Cache.course_after ⟨0, .empty 8 true⟩ places)⟩

end Gazetteer
