import Gazetteer.Proofs.Cache.Entries
import Gazetteer.Cache.Script

/-!
# The course of a run

Whatever actions are run on a cache, nested ones included, the world only ever changes in seven
ways: time passes, a key is looked up, dead entries are swept out, a value is stored, a family is
forgotten or everything is cleared, or nothing happens.  So a property of all runs is proved by
looking at these changes.  Beside a run two things are written down, which can be told without
looking into the cache in the end: what happened to it, and which keys were used.

* `Note`, `notes`, `record`: the record of a run;
* `uses`, `usage`: the keys that were used in a run, in order: those that were found when they were
  looked up, and those under which something was stored;
* `Course`: a way from one world to another by elementary changes, with what is recorded and used on
  it; every action is one (`Course.perform`), and every run (`Course.after`);
* `Course.frame`: neither the capacity nor whether anything is kept at all changes on it;
* `Kept`, `Kept.after`: what every change keeps, as long as time does not go back, every run keeps.
-/

namespace Gazetteer

open Number

/-- Whether a lifetime that begins now has an end, and is not over at once. -/
def Lifetime.lasts (now : Quantity) (lifetime : Lifetime) : Bool :=
  match lifetime.expiry now with
  | .error _ => false
  | .ok expiry => now.lt expiry

namespace Cache

variable {α : Type}

/-! ## The record -/

/-- **A value that was to be kept for some time from a moment on.** -/
structure Deposit (α : Type) where
  time : Quantity
  key : String
  value : Option α
  lifetime : Lifetime
  cost : Int

/-- **What happened to a cache.** -/
inductive Note (α : Type) where
  | passed (before after : Quantity)
  | stored (d : Deposit α)
  /-- What was under a key went, so that there was room for something else. -/
  | crowdedOut (key : String)
  | forgot (family : String)
  | cleared

/-- The keys, other than the one stored under, that are gone after room had to be made. -/
def crowdedOut (now : Quantity) (key : String) (cost : Int) (c c' : Cache α) : List String :=
  if total (without key (c.live now)) + cost ≤ c.capacity then []
  else (c.keys now).filter fun k => k ≠ key && !c'.contains now k

/-- What is noted when a value is stored; nothing if that fails. -/
def storeNotes (w : World α) (key : String) (value : Option α) (lifetime : Lifetime) :
    Cost → List (Note α)
  | .improper _ => []
  | .units n =>
    match w.cache.set w.clock key value lifetime (.units n) with
    | .error _ => []
    | .ok (_, cache) =>
      .stored ⟨w.clock, key, value, lifetime, n⟩ ::
        (crowdedOut w.clock key n w.cache cache).map .crowdedOut

/-- What is noted when a value that was loaded in a generation is kept. -/
def keepNotes (generation : Nat) (key : String) (lifetime : Lifetime) (cost : Costing α)
    (value : Option α) (w : World α) : List (Note α) :=
  match value with
  | none => []
  | some v =>
    match cost (some v) with
    | .error _ => []
    | .ok cost =>
      if generation = w.cache.generation then storeNotes w key (some v) lifetime cost else []

mutual
/-- **What is noted of an action.** -/
def notes (w : World α) : Action α → List (Note α)
  | .advance seconds =>
    match Clock.advance w.clock seconds with
    | .error _ => []
    | .ok clock => [.passed w.clock clock]
  | .get _ | .contains _ | .capacity | .size | .count => []
  | .set key value lifetime cost => storeNotes w key value lifetime cost
  | .getOrLoad key lifetime cost during loaded =>
    match w.cache.get w.clock key with
    | (some _, _) => []
    | (none, cache) =>
      notesAll { w with cache } during ++
        match performAll { w with cache } during, loaded with
        | (none, w), .ok value => keepNotes cache.generation key lifetime cost value w
        | _, _ => []
  | .invalidate family => [.forgot family]
  | .clear => [.cleared]

/-- What is noted of a row of actions, up to the first that fails. -/
def notesAll (w : World α) : List (Action α) → List (Note α)
  | [] => []
  | a :: as =>
    notes w a ++
      match perform w a with
      | (.error _, _) => []
      | (.ok _, w) => notesAll w as
end

/-- The world after some actions, some of which may have failed. -/
def World.after (w : World α) : List (Action α) → World α
  | [] => w
  | a :: as => World.after (perform w a).2 as

/-- **The record of a run.** -/
def record (w : World α) : List (Action α) → List (Note α)
  | [] => []
  | a :: as => notes w a ++ record (perform w a).2 as

/-! ## The uses -/

/-- Looking up a key is a use of it if there is a live entry under it. -/
def lookUses (w : World α) (key : String) : List String :=
  if w.cache.contains w.clock key then [key] else []

/-- Storing a value under a key is a use of it if that succeeds and the value lasts. -/
def storeUses (w : World α) (key : String) (value : Option α) (lifetime : Lifetime) (cost : Cost) :
    List String :=
  match w.cache.set w.clock key value lifetime cost with
  | .ok (true, _) => if lifetime.lasts w.clock then [key] else []
  | _ => []

/-- The uses when a value that was loaded in a generation is kept. -/
def keepUses (generation : Nat) (key : String) (lifetime : Lifetime) (cost : Costing α)
    (value : Option α) (w : World α) : List String :=
  match value with
  | none => []
  | some v =>
    match cost (some v) with
    | .error _ => []
    | .ok cost =>
      if generation = w.cache.generation then storeUses w key (some v) lifetime cost else []

mutual
/-- **The keys that an action uses**, in order. -/
def uses (w : World α) : Action α → List String
  | .get key => lookUses w key
  | .set key value lifetime cost => storeUses w key value lifetime cost
  | .getOrLoad key lifetime cost during loaded =>
    lookUses w key ++
      match w.cache.get w.clock key with
      | (some _, _) => []
      | (none, cache) =>
        usesAll { w with cache } during ++
          match performAll { w with cache } during, loaded with
          | (none, w), .ok value => keepUses cache.generation key lifetime cost value w
          | _, _ => []
  | .advance _ | .contains _ | .invalidate _ | .clear | .capacity | .size | .count => []

/-- The keys that a row of actions uses, up to the first that fails. -/
def usesAll (w : World α) : List (Action α) → List String
  | [] => []
  | a :: as =>
    uses w a ++
      match perform w a with
      | (.error _, _) => []
      | (.ok _, w) => usesAll w as
end

/-- **The keys that a run uses**, in order. -/
def usage (w : World α) : List (Action α) → List String
  | [] => []
  | a :: as => uses w a ++ usage (perform w a).2 as

/-! ## Elementary changes -/

/-- The world after a key has been looked up. -/
def World.look (w : World α) (key : String) : World α :=
  { w with cache := (w.cache.get w.clock key).2 }

/-- The world after a value has been stored, or could not be. -/
def World.put (w : World α) (key : String) (value : Option α) (lifetime : Lifetime) (cost : Cost) :
    World α :=
  match w.cache.set w.clock key value lifetime cost with
  | .error _ => w
  | .ok (_, cache) => { w with cache }

/-- **A way from one world to another by elementary changes**, with what is recorded and used on
it. -/
inductive Course (w₀ : World α) : List (Note α) → List String → World α → Prop where
  | rest : Course w₀ [] [] w₀
  | tick {h us w} (hc : Course w₀ h us w) (t : Quantity) :
    Course w₀ (h ++ [.passed w.clock t]) us { w with clock := t }
  | look {h us w} (hc : Course w₀ h us w) (key : String) :
    Course w₀ h (us ++ lookUses w key) (w.look key)
  | sweep {h us w} (hc : Course w₀ h us w) : Course w₀ h us w.sweep
  | put {h us w} (hc : Course w₀ h us w) (key : String) (value : Option α) (lifetime : Lifetime)
      (cost : Cost) :
    Course w₀ (h ++ storeNotes w key value lifetime cost)
      (us ++ storeUses w key value lifetime cost) (w.put key value lifetime cost)
  | forget {h us w} (hc : Course w₀ h us w) (family : String) :
    Course w₀ (h ++ [.forgot family]) us
      { w with cache := (w.cache.invalidate w.clock family).2 }
  | clear {h us w} (hc : Course w₀ h us w) :
    Course w₀ (h ++ [.cleared]) us { w with cache := w.cache.clear }

theorem perform_set (w : World α) (key : String) (value : Option α) (lifetime : Lifetime)
    (cost : Cost) :
    (perform w (.set key value lifetime cost)).2 = w.put key value lifetime cost := by
  simp only [perform, World.put]
  cases w.cache.set w.clock key value lifetime cost <;> rfl

section Keep

variable {w₀ w : World α} {h : List (Note α)} {us : List String} {generation : Nat} {key : String}
  {lifetime : Lifetime} {costing : Costing α} {v : α} {cost : Cost}

/-- A loaded value of the present generation is kept as if it were stored. -/
theorem keep_of_current (hcost : costing (some v) = .ok cost) :
    keep w.cache.generation key lifetime costing (some v) w =
      match perform w (.set key (some v) lifetime cost) with
      | (.error fault, _) => (.error fault, w)
      | (.ok _, w') => (.ok (.loaded (some v) 1), w') := by
  simp only [keep, hcost, setIfCurrent, if_true, perform]
  cases w.cache.set w.clock key (some v) lifetime cost <;> rfl

theorem keep_of_stale (hcost : costing (some v) = .ok cost) (hg : generation ≠ w.cache.generation) :
    keep generation key lifetime costing (some v) w = (.ok (.loaded (some v) 1), w) := by
  simp only [keep, hcost, setIfCurrent, if_neg hg]

/-- Keeping a loaded value is storing it, or nothing. -/
theorem Course.keep (hc : Course w₀ h us w) (generation : Nat) (key : String)
    (lifetime : Lifetime) (costing : Costing α) (value : Option α) :
    Course w₀ (h ++ keepNotes generation key lifetime costing value w)
      (us ++ keepUses generation key lifetime costing value w)
      (keep generation key lifetime costing value w).2 := by
  cases value with
  | none => simpa [keepNotes, keepUses, Cache.keep] using hc
  | some v =>
    cases hcost : costing (some v) with
    | error fault => simpa [keepNotes, keepUses, Cache.keep, hcost] using hc
    | ok cost =>
      by_cases hg : generation = w.cache.generation
      · have hput : (Cache.keep generation key lifetime costing (some v) w).2 =
            w.put key (some v) lifetime cost := by
          rw [hg, keep_of_current hcost]
          simp only [Cache.perform, World.put]
          cases w.cache.set w.clock key (some v) lifetime cost <;> rfl
        rw [hput]
        simpa [keepNotes, keepUses, hcost, hg] using hc.put key (some v) lifetime cost
      · rw [keep_of_stale hcost hg]
        simpa [keepNotes, keepUses, hcost, hg] using hc

end Keep

mutual
/-- **Every action is a way by elementary changes**, -/
theorem Course.perform {w₀ w : World α} {h : List (Note α)} {us : List String}
    (hc : Course w₀ h us w) (a : Action α) :
    Course w₀ (h ++ notes w a) (us ++ uses w a) (perform w a).2 := by
  cases a with
  | advance seconds =>
    simp only [notes, uses, Cache.perform, List.append_nil]
    cases hx : Clock.advance w.clock seconds with
    | error fault => simpa using hc
    | ok clock => exact hc.tick clock
  | get key => simpa [notes, uses, Cache.perform, World.look] using hc.look key
  | contains key => simpa [notes, uses, Cache.perform] using hc
  | set key value lifetime cost =>
    rw [perform_set]
    simpa [notes, uses] using hc.put key value lifetime cost
  | getOrLoad key lifetime cost during loaded =>
    have hlook := hc.look key
    unfold World.look at hlook
    simp only [notes, uses, Cache.perform]
    cases hx : w.cache.get w.clock key with
    | mk hit c =>
      rw [hx] at hlook
      cases hit with
      | some v => simpa using hlook
      | none =>
        have hd := hlook.performAll during
        simp only [← List.append_assoc]
        cases hq : Cache.performAll { w with cache := c } during with
        | mk fault w' =>
          rw [hq] at hd
          cases fault with
          | some fault => simpa using hd
          | none =>
            cases loaded with
            | error fault => simpa using hd
            | ok value => exact hd.keep c.generation key lifetime cost value
  | invalidate family => simpa [notes, uses, Cache.perform] using hc.forget family
  | clear => simpa [notes, uses, Cache.perform] using hc.clear
  | capacity => simpa [notes, uses, Cache.perform] using hc
  | size => simpa [notes, uses, Cache.perform] using hc.sweep
  | count => simpa [notes, uses, Cache.perform] using hc.sweep

/-- so is a row of actions up to the first that fails, -/
theorem Course.performAll {w₀ w : World α} {h : List (Note α)} {us : List String}
    (hc : Course w₀ h us w) (as : List (Action α)) :
    Course w₀ (h ++ notesAll w as) (us ++ usesAll w as) (performAll w as).2 := by
  cases as with
  | nil => simpa [notesAll, usesAll, Cache.performAll] using hc
  | cons a as =>
    have ha := hc.perform a
    simp only [notesAll, usesAll, Cache.performAll, ← List.append_assoc]
    cases hq : Cache.perform w a with
    | mk answer w' =>
      rw [hq] at ha
      cases answer with
      | error fault => simpa using ha
      | ok answer => exact ha.performAll as
end

/-- **and so is every run.** -/
theorem Course.after {w₀ w : World α} {h : List (Note α)} {us : List String}
    (hc : Course w₀ h us w) (as : List (Action α)) :
    Course w₀ (h ++ record w as) (us ++ usage w as) (w.after as) := by
  induction as generalizing h us w with
  | nil => simpa [record, usage, World.after] using hc
  | cons a as ih =>
    have hrest := ih (hc.perform a)
    simpa only [record, usage, World.after, List.append_assoc] using hrest

theorem course_after (w : World α) (as : List (Action α)) :
    Course w (record w as) (usage w as) (w.after as) :=
  Course.rest.after as

/-! ## What every change keeps -/

section Frame

variable {w₀ w : World α} {h : List (Note α)} {us : List String}

theorem put_frame (w : World α) (key : String) (value : Option α) (lifetime : Lifetime)
    (cost : Cost) :
    (w.put key value lifetime cost).cache.generation = w.cache.generation ∧
      (w.put key value lifetime cost).cache.retains = w.cache.retains ∧
      (w.put key value lifetime cost).cache.capacity = w.cache.capacity := by
  unfold World.put
  cases hs : w.cache.set w.clock key value lifetime cost with
  | error fault => exact ⟨rfl, rfl, rfl⟩
  | ok r => exact set_frame hs

theorem Course.frame (hc : Course w₀ h us w) :
    w.cache.retains = w₀.cache.retains ∧ w.cache.capacity = w₀.cache.capacity := by
  induction hc with
  | rest => exact ⟨rfl, rfl⟩
  | tick _ _ ih => exact ih
  | look _ key ih =>
    obtain ⟨hretains, hcapacity⟩ := get_frame _ _ key
    exact ⟨hretains.trans ih.1, hcapacity.trans ih.2⟩
  | sweep _ ih => exact ih
  | put _ key value lifetime cost ih =>
    obtain ⟨-, hretains, hcapacity⟩ := put_frame _ key value lifetime cost
    exact ⟨hretains.trans ih.1, hcapacity.trans ih.2⟩
  | forget _ _ ih => exact ih
  | clear _ ih => exact ih

end Frame

/-- The time does not go back. -/
def Onward (h : List (Note α)) : Prop :=
  ∀ before after, .passed before after ∈ h → before.Le after

section

variable {h h' : List (Note α)} {w w' : World α} {us : List String}

theorem Onward.left (ho : Onward (h ++ h')) : Onward h :=
  fun t u hm => ho t u (List.mem_append_left _ hm)

theorem Onward.right (ho : Onward (h ++ h')) : Onward h' :=
  fun t u hm => ho t u (List.mem_append_right _ hm)

/-- **A property of a record and the world beside it that every elementary change keeps**: the
passing of time, looking a key up, sweeping, storing, forgetting a family and clearing. -/
structure Kept (P : List (Note α) → World α → Prop) : Prop where
  tick {h : List (Note α)} {w : World α} {t : Quantity} (hp : P h w) (ht : w.clock.Le t) :
    P (h ++ [.passed w.clock t]) { w with clock := t }
  look {h : List (Note α)} {w : World α} (hp : P h w) (key : String) :
    P h { w with cache := (w.cache.get w.clock key).2 }
  sweep {h : List (Note α)} {w : World α} (hp : P h w) : P h w.sweep
  put {h : List (Note α)} {w : World α} (hp : P h w) (key : String) (value : Option α)
    (lifetime : Lifetime) (cost : Cost) :
    P (h ++ storeNotes w key value lifetime cost) (w.put key value lifetime cost)
  forget {h : List (Note α)} {w : World α} (hp : P h w) (family : String) :
    P (h ++ [.forgot family]) { w with cache := (w.cache.invalidate w.clock family).2 }
  clear {h : List (Note α)} {w : World α} (hp : P h w) :
    P (h ++ [.cleared]) { w with cache := w.cache.clear }

variable {P : List (Note α) → World α → Prop}

/-- What every elementary change keeps is kept on the way, as long as the time does not go back. -/
theorem Kept.course (hk : Kept P) (hp : P h w) (hc : Course w h' us w') (ho : Onward h') :
    P (h ++ h') w' := by
  induction hc with
  | rest => simpa using hp
  | tick _ t ih =>
    rw [← List.append_assoc]
    exact hk.tick (ih ho.left) (ho.right _ _ (List.mem_singleton_self _))
  | look _ key ih => exact hk.look (ih ho) key
  | sweep _ ih => exact hk.sweep (ih ho)
  | put _ key value lifetime cost ih =>
    rw [← List.append_assoc]
    exact hk.put (ih ho.left) key value lifetime cost
  | forget _ family ih =>
    rw [← List.append_assoc]
    exact hk.forget (ih ho.left) family
  | clear _ ih =>
    rw [← List.append_assoc]
    exact hk.clear (ih ho.left)

/-- **And so it is in every run.** -/
theorem Kept.after (hk : Kept P) (hp : P h w) (as : List (Action α)) (ho : Onward (record w as)) :
    P (h ++ record w as) (w.after as) :=
  hk.course hp (course_after w as) ho

end

end Cache

end Gazetteer
