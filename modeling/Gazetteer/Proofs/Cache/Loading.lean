import Gazetteer.Proofs.Cache.Accounting

/-!
# Loading a missing value

A missing value is loaded by running actions, which may change the cache, load other values, forget
families, or clear everything.  What comes of it depends on those actions in two ways only: on the
world that they leave, and on whether any of them, at whatever depth, invalidated anything.  The
latter is on the record of the run (`generation_eq_iff`).

* `Course.generation_eq`: the generation counts the invalidations on the record;
* `Solvent.look_of_mem`: looking up a live entry moves it to the end, and does nothing else;
* `Concludes`: how a load ends, by the world that the inner actions leave;
* `Loads`, `loads_after`: what is told for a key after any run, and what it changes;
* `load_refused`: a loaded value that cannot be stored is not told.
-/

namespace Gazetteer.Cache

open Number

variable {α : Type}

/-! ## Generations -/

/-- Whether a note is of an invalidation. -/
def Note.isInvalidation : Note α → Bool
  | .forgot _ | .cleared => true
  | .passed .. | .stored _ | .crowdedOut _ => false

section Generations

variable {w₀ w : World α} {h : List (Note α)} {us : List String}

theorem countP_storeNotes (w : World α) (key : String) (value : Option α) (lifetime : Lifetime)
    (cost : Cost) : (storeNotes w key value lifetime cost).countP Note.isInvalidation = 0 := by
  rw [List.countP_eq_zero]
  intro n hn
  cases cost with
  | improper kind => cases hn
  | units m =>
    cases hs : w.cache.set w.clock key value lifetime (.units m) with
    | error fault => simp [storeNotes, hs] at hn
    | ok r =>
      simp only [storeNotes, hs, List.mem_cons, List.mem_map] at hn
      rcases hn with rfl | ⟨k, -, rfl⟩ <;> simp [Note.isInvalidation]

/-- **The generation counts the invalidations.** -/
theorem Course.generation_eq (hc : Course w₀ h us w) :
    w.cache.generation = w₀.cache.generation + h.countP Note.isInvalidation := by
  induction hc with
  | rest => rfl
  | tick _ _ ih => simpa [Note.isInvalidation] using ih
  | look _ key ih => exact get_generation.trans ih
  | sweep _ ih => exact ih
  | put _ key value lifetime cost ih =>
    rw [List.countP_append, countP_storeNotes, Nat.add_zero, ← ih]
    exact (put_frame _ key value lifetime cost).1
  | forget _ family ih =>
    have hone : [Note.forgot (α := α) family].countP Note.isInvalidation = 1 := rfl
    rw [List.countP_append, hone, ← Nat.add_assoc, ← ih]
    rfl
  | clear _ ih =>
    have hone : [Note.cleared (α := α)].countP Note.isInvalidation = 1 := rfl
    rw [List.countP_append, hone, ← Nat.add_assoc, ← ih]
    rfl

/-- **A row of actions leaves the generation** if and only if none of them, nested ones included,
invalidated anything. -/
theorem generation_eq_iff (w : World α) (as : List (Action α)) :
    (performAll w as).2.cache.generation = w.cache.generation ↔
      ∀ n ∈ notesAll w as, n.isInvalidation = false := by
  have hgeneration := (Course.rest.performAll as : Course w _ _ _).generation_eq
  rw [hgeneration, List.nil_append, Nat.add_eq_left, List.countP_eq_zero]
  simp only [Bool.not_eq_true]

end Generations

/-! ## Looking up -/

section Look

variable {w : World α} {key : String} {e : CacheEntry α}

theorem without_split {before after : List (CacheEntry α)}
    (h : ((before ++ e :: after).map (·.key)).Nodup) :
    without e.key (before ++ e :: after) = before ++ after := by
  rw [List.map_append, List.map_cons, List.nodup_middle, List.nodup_cons, ← List.map_append] at h
  have hsplit : without e.key (before ++ e :: after) =
      without e.key before ++ without e.key after := by
    simp [without]
  rw [hsplit, ← without_eq_self h.1]
  exact (List.filter_append ..).symm

/-- **Looking up a live entry moves it to the end**, and does nothing else. -/
theorem Solvent.look_of_mem (h : w.cache.Solvent) (he : e ∈ w.cache.live w.clock) :
    ∃ before after, w.cache.entries = before ++ e :: after ∧
      w.look e.key = { w with cache := { w.cache with entries := before ++ after ++ [e] } } := by
  obtain ⟨before, after, hsplit⟩ := List.append_of_mem (mem_live.mp he).1
  refine ⟨before, after, hsplit, ?_⟩
  unfold World.look
  rw [get_of_find?_eq_some (h.find?_of_mem he), hsplit, without_split (hsplit ▸ h.keys)]

theorem look_of_not_mem (h : ∀ e ∈ w.cache.live w.clock, e.key ≠ key) : w.look key = w := by
  have hfind : w.cache.find? w.clock key = none := by
    rw [find?, List.find?_eq_none]
    simpa using h
  unfold World.look
  rw [get_of_find?_eq_none hfind]

/-- No value is told under a key for which there is no live one. -/
theorem get_eq_none (h : ∀ e ∈ w.cache.live w.clock, e.key = key → e.value = none) :
    (w.cache.get w.clock key).1 = none := by
  cases hf : w.cache.find? w.clock key with
  | none => rw [get_of_find?_eq_none hf]
  | some e =>
    obtain ⟨he, hl, hk⟩ := find?_eq_some hf
    rw [get_of_find?_eq_some hf]
    exact h e (mem_live.mpr ⟨he, hl⟩) hk

end Look

/-! ## How a load ends -/

section Loading

variable {w S : World α} {key : String} {lifetime : Lifetime} {cost : Costing α}
  {during : List (Action α)} {loaded : Except CacheFault (Option α)} {failed : Option CacheFault}
  {invalidated : Prop} {result : Except CacheFault (Answer α) × World α}

/-- **How a load ends**, by the world `S` that its inner actions leave, whether one of them failed
and whether anything was invalidated. -/
structure Concludes (key : String) (lifetime : Lifetime) (cost : Costing α)
    (loaded : Except CacheFault (Option α)) (failed : Option CacheFault) (invalidated : Prop)
    (S : World α) (result : Except CacheFault (Answer α) × World α) : Prop where
  /-- A failure of an inner action, of the load or of the costing is passed on, -/
  inner : ∀ fault, failed = some fault → result = (.error fault, S)
  load : failed = none → ∀ fault, loaded = .error fault → result = (.error fault, S)
  price : failed = none → ∀ v fault, loaded = .ok (some v) → cost (some v) = .error fault →
    result = (.error fault, S)
  /-- that there is no value is told, but not stored, -/
  nothing : failed = none → loaded = .ok none → result = (.ok (.loaded none 1), S)
  /-- and so is a value if anything was invalidated meanwhile. -/
  stale : failed = none → invalidated → ∀ v c, loaded = .ok (some v) → cost (some v) = .ok c →
    result = (.ok (.loaded (some v) 1), S)
  /-- Any other value is stored and told, -/
  stored : failed = none → ¬invalidated → ∀ v c, loaded = .ok (some v) → cost (some v) = .ok c →
    ∀ answer S', perform S (.set key (some v) lifetime c) = (.ok answer, S') →
      result = (.ok (.loaded (some v) 1), S')
  /-- unless storing it fails. -/
  refused : failed = none → ¬invalidated → ∀ v c, loaded = .ok (some v) → cost (some v) = .ok c →
    ∀ fault S', perform S (.set key (some v) lifetime c) = (.error fault, S') →
      result = (.error fault, S)

/-- **What is told for a key**, of which the value is loaded if it is missing, and what it
changes. -/
structure Loads (w : World α) (key : String) (lifetime : Lifetime) (cost : Costing α)
    (during : List (Action α)) (loaded : Except CacheFault (Option α)) : Prop where
  /-- A live value is told, and none is loaded. -/
  hit : ∀ e ∈ w.cache.live w.clock, e.key = key → ∀ v, e.value = some v →
    perform w (.getOrLoad key lifetime cost during loaded) = (.ok (.loaded (some v) 0), w.look key)
  /-- Looking the key up makes its live entry the most recently used one, -/
  found : ∀ e ∈ w.cache.live w.clock, e.key = key → ∃ before after,
    w.cache.entries = before ++ e :: after ∧
      w.look key = { w with cache := { w.cache with entries := before ++ after ++ [e] } }
  /-- and without one it changes nothing. -/
  unfound : (∀ e ∈ w.cache.live w.clock, e.key ≠ key) → w.look key = w
  /-- If there is no live value, one is loaded, once. -/
  miss : (∀ e ∈ w.cache.live w.clock, e.key = key → e.value = none) →
    ∀ failed S, performAll (w.look key) during = (failed, S) →
      Concludes key lifetime cost loaded failed
        (∃ n ∈ notesAll (w.look key) during, n.isInvalidation) S
        (perform w (.getOrLoad key lifetime cost during loaded))
  /-- In a cache that keeps nothing there never is one, not even after the load. -/
  bare : w.cache.retains = false → w.cache.entries = [] ∧
    ∀ S v c, performAll w during = (none, S) → loaded = .ok (some v) → cost (some v) = .ok c →
      perform w (.getOrLoad key lifetime cost during loaded) = (.ok (.loaded (some v) 1), S) ∧
        S.cache.entries = []

/-- What is left to do of a load after its inner actions. -/
def conclude (generation : Nat) (key : String) (lifetime : Lifetime) (cost : Costing α)
    (loaded : Except CacheFault (Option α)) (failed : Option CacheFault) (S : World α) :
    Except CacheFault (Answer α) × World α :=
  match failed, loaded with
  | some fault, _ => (.error fault, S)
  | none, .error fault => (.error fault, S)
  | none, .ok value => keep generation key lifetime cost value S

theorem perform_getOrLoad (h : (w.cache.get w.clock key).1 = none)
    (hd : performAll (w.look key) during = (failed, S)) :
    perform w (.getOrLoad key lifetime cost during loaded) =
      conclude w.cache.generation key lifetime cost loaded failed S := by
  have hgeneration : (w.cache.get w.clock key).2.generation = w.cache.generation := get_generation
  unfold World.look at hd
  simp only [perform]
  cases hx : w.cache.get w.clock key with
  | mk hit c =>
    rw [hx] at h hd hgeneration
    cases h
    simp only at hd hgeneration
    rw [← hgeneration]
    simp only [hd]
    cases failed with
    | some fault => rfl
    | none => cases loaded <;> rfl

theorem concludes_conclude {generation : Nat}
    (hg : ¬invalidated ↔ generation = S.cache.generation) :
    Concludes key lifetime cost loaded failed invalidated S
      (conclude generation key lifetime cost loaded failed S) where
  inner := by
    rintro fault rfl
    rfl
  load := by
    rintro rfl fault rfl
    rfl
  price := by
    rintro rfl v fault rfl hcost
    simp only [conclude, keep, hcost]
  nothing := by
    rintro rfl rfl
    rfl
  stale := by
    rintro rfl hi v c rfl hcost
    exact keep_of_stale hcost fun he => hg.mpr he hi
  stored := by
    rintro rfl hi v c rfl hcost answer S' hset
    obtain rfl := hg.mp hi
    simp only [conclude, keep_of_current hcost, hset]
  refused := by
    rintro rfl hi v c rfl hcost fault S' hset
    obtain rfl := hg.mp hi
    simp only [conclude, keep_of_current hcost, hset]

theorem concludes_getOrLoad (h : (w.cache.get w.clock key).1 = none)
    (hd : performAll (w.look key) during = (failed, S)) :
    Concludes key lifetime cost loaded failed
      (∃ n ∈ notesAll (w.look key) during, n.isInvalidation) S
      (perform w (.getOrLoad key lifetime cost during loaded)) := by
  have hgeneration := generation_eq_iff (w.look key) during
  have hlook : (w.look key).cache.generation = w.cache.generation := get_generation
  rw [hd, hlook, eq_comm] at hgeneration
  rw [perform_getOrLoad h hd]
  refine concludes_conclude (Iff.trans ?_ hgeneration.symm)
  simp only [not_exists, not_and, Bool.not_eq_true]

end Loading

/-! ## Caches that keep nothing -/

/-- **A cache that keeps nothing never holds an entry.** -/
theorem Course.entries_eq_nil {w₀ w : World α} {h : List (Note α)} {us : List String}
    (hc : Course w₀ h us w) (hr : w₀.cache.retains = false) (hn : w₀.cache.entries = []) :
    w.cache.entries = [] := by
  induction hc with
  | rest => exact hn
  | tick _ _ ih => exact ih
  | look _ key ih => simp [World.look, get, find?, live, ih]
  | sweep _ ih => simp [World.sweep, Cache.sweep, live, ih]
  | put hc key value lifetime cost ih =>
    have hretains := hc.frame.1.trans hr
    simp [World.put, set, hretains, ih]
  | forget _ family ih => simp [invalidate, ih]
  | clear _ _ => rfl

theorem keep_of_bare {S : World α} {generation : Nat} {key : String} {lifetime : Lifetime}
    {cost : Costing α} {v : α} {c : Cost} (hr : S.cache.retains = false)
    (hcost : cost (some v) = .ok c) :
    keep generation key lifetime cost (some v) S = (.ok (.loaded (some v) 1), S) := by
  by_cases hg : generation = S.cache.generation
  · simp [keep, hcost, setIfCurrent, hg, set, hr, Functor.map, Except.map]
  · exact keep_of_stale hcost hg

/-! ## After a run -/

/-- **What is told for a key after any run**, and what it changes: every cache that a run leads to
answers as `Loads` says. -/
theorem loads_after (capacity : Nat) (retains : Bool) (clock : Quantity) (as : List (Action α))
    (key : String) (lifetime : Lifetime) (cost : Costing α) (during : List (Action α))
    (loaded : Except CacheFault (Option α)) :
    Loads (World.after ⟨clock, .empty capacity retains⟩ as) key lifetime cost during loaded := by
  have hcourse := course_after ⟨clock, .empty capacity retains⟩ as
  have hsolvent := hcourse.solvent (solvent_empty capacity retains)
  have hbare : ∀ {h : List (Note α)} {us : List String} {w : World α},
      Course ⟨clock, .empty capacity retains⟩ h us w → w.cache.retains = false →
        w.cache.entries = [] := by
    intro h us w hc hr
    exact hc.entries_eq_nil (hc.frame.1.symm.trans hr) rfl
  generalize World.after ⟨clock, .empty capacity retains⟩ as = w at hcourse hsolvent
  refine ⟨?_, ?_, look_of_not_mem, ?_, ?_⟩
  · rintro e he rfl v hv
    have hget := get_of_find?_eq_some (hsolvent.find?_of_mem he)
    simp only [perform, World.look, hget, hv]
  · rintro e he rfl
    exact hsolvent.look_of_mem he
  · intro hmiss failed S hd
    exact concludes_getOrLoad (get_eq_none hmiss) hd
  · intro hr
    have hempty := hbare hcourse hr
    refine ⟨hempty, fun S v c hd hloaded hcost => ?_⟩
    have hlive : ∀ e ∈ w.cache.live w.clock, e.key ≠ key := fun e he => by
      rw [live, hempty] at he
      cases he
    have hS := hcourse.performAll during
    rw [hd] at hS
    have hrS : S.cache.retains = false := by
      rw [hS.frame.1, ← hcourse.frame.1, hr]
    rw [← look_of_not_mem hlive] at hd
    rw [perform_getOrLoad (get_eq_none fun e he hk => absurd hk (hlive e he)) hd, hloaded]
    exact ⟨keep_of_bare hrS hcost, hbare hS hrS⟩

/-- **A loaded value that cannot be stored is not told**, though nothing was invalidated. -/
theorem load_refused :
    let w : World Nat := ⟨0, .empty 10 true⟩
    performAll (w.look "a") [] = (none, w) ∧ notesAll (w.look "a") [] = [] ∧
      perform w (.getOrLoad "a" (.seconds 60) (fun _ => .ok (.units (-1))) [] (.ok (some 1))) =
        (.error .negativeCost, w) :=
  ⟨rfl, rfl, rfl⟩

end Gazetteer.Cache
