import Gazetteer.Proofs.Registry.Transparency

/-!
# The course of a registry

In the course of a registry operations of the service, work behind its back and sweeps follow each
other as they like.  Whichever comes next, it is one of a few steps.

* `Passage`, `passage_after`: what an event does;
* `afterAll`: the registry after a row of events; `afterAll_induction`: what every step keeps;
* `Forward`: a course in which the clock is not set back; `le_clock_afterAll`.
-/

namespace Gazetteer

open Number Store

namespace Registry

variable {r r' : Registry}

/-! ## Events -/

/-- **What an event does to a registry.** -/
inductive Passage (r : Registry) : Registry → Prop
  | change {r' : Registry} (h : r.Change r') : Passage r r'
  | time (clock : Quantity) : Passage r { r with clock }
  /-- Work behind the registry's back. -/
  | tables (store : Store) : Passage r { r with store }
  | sweep : Passage r r.sweep

theorem passage_perform (r : Registry) (op : Operation) : r.Passage (r.perform op).2 := by
  cases hs : op.isService with
  | true =>
    by_cases ht : ∃ seconds, op = .advance seconds
    · obtain ⟨seconds, rfl⟩ := ht
      rw [perform_advance]
      exact .time _
    · exact .change (change_perform r hs fun seconds ho => ht ⟨seconds, ho⟩)
  | false =>
    obtain ⟨store, hp⟩ := perform_of_not_isService r hs
    rw [hp]
    exact .tables store

/-- **Every event is one of these steps.** -/
theorem passage_after (r : Registry) (e : Event) : r.Passage (r.after e) := by
  cases e with
  | operation op => exact passage_perform r op
  | sweep => exact .sweep

theorem clock_after (r : Registry) (e : Event) :
    (r.after e).clock = e.clockAfter r.clock ∧ (r.after e).lifetimes = r.lifetimes := by
  by_cases hs : e.IsService
  · exact after_frame r hs
  · cases e with
    | sweep => exact absurd trivial hs
    | operation op =>
      obtain ⟨store, hp⟩ := perform_of_not_isService r (Bool.not_eq_true _ ▸ hs)
      have hclock : Event.clockAfter r.clock (.operation op) = r.clock := by
        unfold Event.clockAfter
        split
        · next ho => cases ho; exact absurd rfl hs
        · rfl
      rw [hclock, after, hp]
      exact ⟨rfl, rfl⟩

/-- **What is in the cache after an event** was there before, or is what the tables answer to a
query. -/
theorem mem_after {ev : Event} {e : CacheEntry Reading} (h : e ∈ (r.after ev).cache.entries) :
    e ∈ r.cache.entries ∨ ∃ (q : Query) (reading : Reading), q.Normal ∧
      q.load r.store = .ok (some reading) ∧ e.key = q.key ∧ e.value = some reading ∧
      (r.lifetime q).expiry r.clock = .ok e.expiry ∧ e.cost = reading.cost := by
  have hp := r.passage_after ev
  generalize r.after ev = r' at h hp
  cases hp with
  | change hc =>
    cases hc with
    | nothing => exact Or.inl h
    | reading q hq => exact (mem_read h).imp id fun ⟨reading, hr⟩ => ⟨q, reading, hq, hr⟩
    | forgetting family => exact Or.inl (Cache.mem_invalidate.mp h).1
    | writing store => exact Or.inl (Cache.mem_invalidate.mp h).1
  | time | tables => exact Or.inl h
  | sweep => exact Or.inl (Cache.mem_sweep.mp h).1

/-! ## Rows of events -/

/-- **The registry after a row of events.** -/
def afterAll (r : Registry) : List Event → Registry
  | [] => r
  | e :: es => (r.after e).afterAll es

theorem afterAll_append (r : Registry) (es es' : List Event) :
    r.afterAll (es ++ es') = (r.afterAll es).afterAll es' := by
  induction es generalizing r with
  | nil => rfl
  | cons e es ih => exact ih (r.after e)

theorem afterAll_concat (r : Registry) (es : List Event) (e : Event) :
    r.afterAll (es ++ [e]) = (r.afterAll es).after e :=
  r.afterAll_append es [e]

/-- **What every step keeps holds in the end.** -/
theorem afterAll_induction {P : Registry → Prop} (hstep : ∀ r r', P r → r.Passage r' → P r')
    (h : P r) (es : List Event) : P (r.afterAll es) := by
  induction es generalizing r with
  | nil => exact h
  | cons e es ih => exact ih (hstep r _ h (r.passage_after e))

theorem lifetimes_afterAll (r : Registry) (es : List Event) :
    (r.afterAll es).lifetimes = r.lifetimes := by
  induction es generalizing r with
  | nil => rfl
  | cons e es ih => exact (ih (r.after e)).trans (r.clock_after e).2

end Registry

/-! ## Time -/

/-- **The clock is not set back** in a row of events. -/
def Forward (clock : Quantity) : List Event → Prop
  | [] => True
  | e :: es => clock.Le (e.clockAfter clock) ∧ Forward (e.clockAfter clock) es

instance decidableForward (clock : Quantity) : (es : List Event) → Decidable (Forward clock es)
  | [] => inferInstanceAs (Decidable True)
  | e :: es =>
    have := decidableForward (e.clockAfter clock) es
    inferInstanceAs (Decidable (_ ∧ _))

namespace Registry

variable {r : Registry}

theorem forward_append {es es' : List Event} : Forward r.clock (es ++ es') ↔
    Forward r.clock es ∧ Forward (r.afterAll es).clock es' := by
  induction es generalizing r with
  | nil => exact (iff_of_eq (true_and _)).symm
  | cons e es ih =>
    have hrest := ih (r := r.after e)
    rw [(r.clock_after e).1] at hrest
    rw [List.cons_append, Forward, Forward, hrest, and_assoc]
    rfl

theorem forward_concat {es : List Event} {e : Event} : Forward r.clock (es ++ [e]) ↔
    Forward r.clock es ∧ (r.afterAll es).clock.Le (e.clockAfter (r.afterAll es).clock) :=
  forward_append.trans (and_congr_right fun _ => iff_of_eq (and_true _))

/-- **A clock that is not set back never shows less.** -/
theorem le_clock_afterAll {es : List Event} (h : Forward r.clock es)
    (hn : (r.afterAll es).clock.isNumber) : r.clock.Le (r.afterAll es).clock := by
  induction es generalizing r with
  | nil => exact Quantity.le_iff.mpr ⟨hn, hn, le_rfl⟩
  | cons e es ih =>
    obtain ⟨hle, hrest⟩ := h
    rw [← (r.clock_after e).1] at hle hrest
    exact Quantity.le_trans hle (ih hrest hn)

/-- **What sums keep is true of the clock.** -/
theorem clock_afterAll_induction {P : Quantity → Prop}
    (hsum : ∀ clock seconds sum, P clock → clock.add? seconds = some sum → P sum)
    (h : P r.clock) (es : List Event) : P (r.afterAll es).clock := by
  induction es generalizing r with
  | nil => exact h
  | cons e es ih =>
    refine ih ?_
    rw [(r.clock_after e).1]
    unfold Event.clockAfter
    split
    · next seconds =>
      unfold Clock.after Clock.advance
      cases hs : r.clock.add? seconds with
      | none => exact h
      | some sum => exact hsum _ _ _ h hs
    · exact h

end Registry

end Gazetteer
