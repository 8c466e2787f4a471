import Gazetteer.Proofs.Cache.Lighter

/-!
# Forgetting a family

A family is forgotten by dropping its live entries, one after the other.  Everything else stays what
and where it was, and is crowded out in the order in which it would have been, if at all.

* `dropEach_eq`: forgetting is dropping the live entries of the family one by one;
* `fst_invalidate`, `size_invalidate`: how many they are, and what they cost;
* `Forgets`, `Solvent.forgets`: what forgetting a family does at any point of any run.
-/

namespace Gazetteer.Cache

open Number

variable {α : Type}

/-! ## What is left -/

section Left

variable {c : Cache α} {now : Quantity} {family : String}

/-- The cache after the live entries under some keys were dropped, one after the other. -/
def dropEach (now : Quantity) (keys : List String) (c : Cache α) : Cache α :=
  keys.foldl (fun c key => c.dropLive now key) c

theorem entries_dropEach (keys : List String) (c : Cache α) :
    c.dropEach now keys =
      { c with entries := c.entries.filter fun e => !(e.key ∈ keys && e.isLive now) } := by
  induction keys generalizing c with
  | nil => simp [dropEach]
  | cons key keys ih =>
    have hrest : c.dropEach now (key :: keys) = (c.dropLive now key).dropEach now keys := rfl
    rw [hrest, ih, dropLive, List.filter_filter]
    congr 1
    refine List.filter_congr fun e _ => ?_
    by_cases hk : e.key = key
    · cases e.isLive now <;> simp [hk]
    · simp [hk]

/-- **Forgetting a family is dropping its live entries, one after the other**, in a generation of
its own. -/
theorem dropEach_eq (c : Cache α) (now : Quantity) (family : String) :
    (c.invalidate now family).2 =
      (c.dropEach now ((c.keys now).filter (isUnder family ·))).bumped 1 := by
  have hentries : (c.entries.filter fun e => !(isUnder family e.key && e.isLive now)) =
      c.entries.filter fun e =>
        !(e.key ∈ (c.keys now).filter (isUnder family ·) && e.isLive now) := by
    refine List.filter_congr fun e he => ?_
    cases hl : e.isLive now with
    | false => simp
    | true =>
      have hmem : e.key ∈ c.keys now := List.mem_map_of_mem (mem_live.mpr ⟨he, hl⟩)
      simp [hmem]
  rw [entries_dropEach, ← hentries]
  rfl

theorem fst_invalidate : (c.invalidate now family).1 =
    ((c.keys now).filter (isUnder family ·)).length := by
  rw [keys, List.filter_map, List.length_map]
  rfl

/-- What was live costs what still is, and what is gone. -/
theorem size_invalidate : c.size now = (c.invalidate now family).2.size now +
    total ((c.live now).filter fun e => isUnder family e.key) := by
  have hperm := List.filter_append_perm (fun e => !isUnder family e.key) (c.live now)
  rw [size, size, live_invalidate, ← total_perm hperm, total_append]
  simp only [Bool.not_not]

end Left

/-! ## Forgetting -/

/-- **What forgetting a family does to a world**, and what it does not. -/
structure Forgets (family : String) (w : World α) : Prop where
  /-- It tells how many live keys are of the family. -/
  told : perform w (.invalidate family) =
    (.ok (.number ((w.cache.keys w.clock).filter (isUnder family ·)).length), w.forget family)
  /-- These are dropped one after the other; nothing else happens, but for a new generation. -/
  dropped : (w.forget family).cache =
    (w.cache.dropEach w.clock ((w.cache.keys w.clock).filter (isUnder family ·))).bumped 1
  /-- All other live entries stay, each with its value, its end and its cost, in their order. -/
  left : (w.forget family).cache.live w.clock =
    (w.cache.live w.clock).filter fun e => !isUnder family e.key
  /-- What is live costs less, by what is gone. -/
  size : w.cache.size w.clock = (w.forget family).cache.size w.clock +
    total ((w.cache.live w.clock).filter fun e => isUnder family e.key)
  /-- What would be live outside the family later on, had nothing been forgotten, is live then, at
  the end of a row in which everything keeps its place, -/
  later : ∀ as, Onward (record w as) → InStep w (w.forget family) as →
    ((w.after as).cache.live (w.after as).clock).filter (fun e => !isUnder family e.key) <:+
      (((w.forget family).after as).cache.live (w.after as).clock).filter fun e =>
        !isUnder family e.key
  /-- and what is crowded out of it goes in the order in which it would have gone. -/
  evictions : ∀ as, Onward (record w as) → InStep w (w.forget family) as →
    (outside family (evicted (record (w.forget family) as))).Sublist
      (outside family (evicted (record w as)))
  /-- A second time there is nothing to forget, -/
  again : perform (w.forget family) (.invalidate family) =
    (.ok (.number 0), (w.forget family).bumped 1)
  /-- of which nobody can tell whether it was tried. -/
  unseen : ∀ as, run ((w.forget family).bumped 1) as =
    (run (w.forget family) as).map fun x => (x.1, x.2.bumped 1)
  /-- Of two families either can be forgotten first. -/
  order : ∀ other, (w.forget family).forget other = (w.forget other).forget family

section Forgets

variable {family : String} {w : World α}

/-- The live keys of the family are gone. -/
theorem keys_forget : ((w.forget family).cache.keys w.clock).filter (isUnder family ·) = [] := by
  refine List.filter_eq_nil_iff.mpr fun key hk => ?_
  obtain ⟨e, he, rfl⟩ := List.mem_map.mp hk
  have hleft : e ∈ (w.cache.live w.clock).filter fun e => !isUnder family e.key :=
    live_invalidate ▸ he
  simpa using (List.mem_filter.mp hleft).2

theorem forget_forget : (w.forget family).forget family = (w.forget family).bumped 1 := by
  unfold World.forget
  rw [dropEach_eq (w.cache.invalidate w.clock family).2]
  have hkeys : ((w.forget family).cache.keys w.clock).filter (isUnder family ·) = [] := keys_forget
  unfold World.forget at hkeys
  rw [hkeys]
  rfl

theorem forget_comm (other : String) :
    (w.forget family).forget other = (w.forget other).forget family := by
  simp only [World.forget, invalidate, List.filter_filter, Bool.and_comm]

theorem Solvent.forgets (hs : w.cache.Solvent) (family : String) : Forgets family w where
  told := by
    rw [← fst_invalidate]
    rfl
  dropped := dropEach_eq w.cache w.clock family
  left := live_invalidate
  size := size_invalidate
  later as ho hi := by
    have h := (lightens_forget hs family).after ho hi
    exact h.clock ▸ h.rows.suffix
  evictions as ho hi := by
    have h := (lightens_forget hs family).after ho hi
    exact h.rows.sublist
  again := by
    have htold : perform (w.forget family) (.invalidate family) =
        (.ok (.number ((w.forget family).cache.invalidate w.clock family).1),
          (w.forget family).forget family) := rfl
    rw [htold, fst_invalidate, keys_forget, forget_forget]
    rfl
  unseen as := bumped_run 1 _ as
  order := forget_comm

end Forgets

end Gazetteer.Cache
