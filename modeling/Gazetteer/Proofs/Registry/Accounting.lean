import Gazetteer.Proofs.Cache.Accounting
import Gazetteer.Proofs.Registry.Atomicity
import Gazetteer.Proofs.Registry.Course

/-!
# What the readings of a registry cost

The cache of a registry holds readings, each at the cost of its kind: a country and the list of
continents cost one unit, a page as many as it has countries.  Together they never cost more than
the capacity, so that a page that is too dear is told, but not kept.

* `Priced`, `priced_afterAll`: every entry costs what its reading costs;
* `search_tooDear`: a search for a page that is too dear;
* `Balanced`, `accounts_balance`: the accounts of a cache, and those of a registry.
-/

namespace Gazetteer

open Number Store

/-! ## Stores that fail -/

/-- What fails to be kept fails to be stored, in a cache that keeps something. -/
theorem Cache.set_of_setIfCurrent_error {α : Type} {c : Cache α} {now : Quantity}
    {generation : Nat} {key : String} {v : α} {lifetime : Lifetime} {n : Int} {fault : CacheFault}
    (h : c.setIfCurrent now generation key v lifetime (.units n) = .error fault) :
    c.retains ∧ c.set now key (some v) lifetime (.units n) = .error fault := by
  unfold setIfCurrent at h
  split at h
  · cases hr : c.retains with
    | false => simp [set, hr, Functor.map, Except.map] at h
    | true =>
      cases hs : c.set now key (some v) lifetime (.units n) with
      | error fault' =>
        rw [hs] at h
        cases h
        exact ⟨rfl, rfl⟩
      | ok x => rw [hs] at h; cases h
  · cases h

/-- A value can only fail to be kept if it is not too dear, -/
theorem Cache.le_capacity_of_setIfCurrent {α : Type} {c : Cache α} {now : Quantity}
    {generation : Nat} {key : String} {v : α} {lifetime : Lifetime} {n : Int} {fault : CacheFault}
    (h : c.setIfCurrent now generation key v lifetime (.units n) = .error fault) :
    n ≤ c.capacity := by
  obtain ⟨hr, hs⟩ := set_of_setIfCurrent_error h
  exact ((set_eq_error_iff hr).mp hs).1

/-- and, at a cost that is not negative, if the end of its lifetime cannot be told. -/
theorem Cache.expiry_of_setIfCurrent {α : Type} {c : Cache α} {now : Quantity} {generation : Nat}
    {key : String} {v : α} {lifetime : Lifetime} {n : Nat} {fault : CacheFault}
    (h : c.setIfCurrent now generation key v lifetime (.units n) = .error fault) :
    lifetime.expiry now = .error fault := by
  obtain ⟨hr, hs⟩ := set_of_setIfCurrent_error h
  rcases ((set_eq_error_iff hr).mp hs).2 with hx | ⟨-, -, -, hn, -⟩
  · exact hx
  · omega

theorem Cache.solvent_setIfCurrent {α : Type} {c c' : Cache α} {now : Quantity} {generation : Nat}
    {key : String} {v : α} {lifetime : Lifetime} {cost : Cost} (h : c.Solvent)
    (hs : c.setIfCurrent now generation key v lifetime cost = .ok c') : c'.Solvent := by
  unfold setIfCurrent at hs
  split at hs
  · cases hset : c.set now key (some v) lifetime cost with
    | error fault => rw [hset] at hs; cases hs
    | ok x =>
      rw [hset] at hs
      cases hs
      exact solvent_set h hset
  · cases hs
    exact h

namespace Registry

variable {r r' : Registry} {capacity : Nat}

/-! ## Every entry costs what its reading costs -/

/-- **The cache is solvent, and every reading in it has its price.** -/
structure Priced (capacity : Nat) (r : Registry) : Prop where
  solvent : r.cache.Solvent
  capacity_eq : r.cache.capacity = capacity
  price : ∀ e ∈ r.cache.entries, ∃ (q : Query) (reading : Reading) (s : Store), q.Normal ∧
    e.key = q.key ∧ e.value = some reading ∧ q.load s = .ok (some reading) ∧
    e.cost = reading.cost

theorem priced_empty (capacity : Nat) (retains : Bool) (clock : Quantity) (lifetimes : Lifetimes) :
    Priced capacity ⟨.empty, .empty capacity retains, clock, lifetimes⟩ :=
  ⟨Cache.solvent_empty capacity retains, rfl, fun _ he => absurd he List.not_mem_nil⟩

/-- A reading leaves the cache solvent, and its capacity as it is. -/
theorem solvent_read (h : r.cache.Solvent) (q : Query) :
    (r.read q).2.cache.Solvent ∧ (r.read q).2.cache.capacity = r.cache.capacity := by
  have hlook : (r.lookedUp q).Solvent := Cache.solvent_get h
  have hcap : (r.lookedUp q).capacity = r.cache.capacity := (Cache.get_frame _ _ _).2
  have hr := readsTo r q
  generalize r.read q = x at hr
  cases hr with
  | hit | refused | absent | uncached => exact ⟨hlook, hcap⟩
  | kept reading c hg hl hc =>
    exact ⟨Cache.solvent_setIfCurrent hlook hc, (Cache.setIfCurrent_frame hc).2.2.trans hcap⟩

theorem priced_passage (h : r.Priced capacity) (hp : r.Passage r') : r'.Priced capacity := by
  cases hp with
  | change hc =>
    cases hc with
    | nothing => exact h
    | reading q hq =>
      obtain ⟨hsolvent, hcap⟩ := solvent_read h.solvent q
      refine ⟨hsolvent, hcap.trans h.capacity_eq, fun e he => ?_⟩
      rcases mem_read he with he | ⟨reading, hload, hkey, hvalue, -, hcost⟩
      · exact h.price e he
      · exact ⟨q, reading, r.store, hq, hkey, hvalue, hload, hcost⟩
    | forgetting family =>
      exact ⟨Cache.solvent_invalidate h.solvent family, h.capacity_eq,
        fun e he => h.price e (Cache.mem_invalidate.mp he).1⟩
    | writing store =>
      exact ⟨Cache.solvent_invalidate h.solvent Key.family, h.capacity_eq,
        fun e he => h.price e (Cache.mem_invalidate.mp he).1⟩
  | time | tables => exact ⟨h.solvent, h.capacity_eq, h.price⟩
  | sweep =>
    exact ⟨Cache.solvent_sweep h.solvent, h.capacity_eq,
      fun e he => h.price e (Cache.mem_sweep.mp he).1⟩

theorem priced_afterAll (h : r.Priced capacity) (es : List Event) :
    (r.afterAll es).Priced capacity :=
  afterAll_induction (fun _ _ => priced_passage) h es

/-! ## Pages that are too dear -/

/-- **A page that is too dear is told, but not kept.** -/
theorem search_tooDear (h : r.Priced capacity) {request : Search.Request}
    (hmiss : r.cache.contains r.clock (Key.search request) = false)
    (hdear : capacity < max (r.store.page request).items.length 1) :
    (r.search request).1 = .ok (some (r.store.page request)) ∧
      (r.search request).2.cache.contains r.clock (Key.search request) = false := by
  have hcost : r.cache.capacity < (Reading.page (r.store.page request)).cost :=
    h.capacity_eq ▸ hdear
  have hfind : r.cache.find? r.clock (Key.search request) = none := by
    simpa [Cache.contains] using hmiss
  obtain ⟨hsolvent, hcap⟩ := solvent_read h.solvent (.search request)
  constructor
  · have hr := readsTo r (.search request)
    have hload : Query.load r.store (.search request) =
      .ok (some (.page (r.store.page request))) := rfl
    unfold search
    generalize r.read (.search request) = x at hr
    cases hr with
    | hit reading hg =>
      rw [show (Query.search request).key = Key.search request from rfl,
        Cache.get_of_find?_eq_none hfind] at hg
      cases hg
    | refused fault hg hl => cases hl
    | absent hg hl => cases hl
    | kept reading c hg hl hc => cases hl; rfl
    | uncached reading fault hg hl hc =>
      cases hl
      have hle := Cache.le_capacity_of_setIfCurrent hc
      rw [show (r.lookedUp (.search request)).capacity = r.cache.capacity from
        (Cache.get_frame _ _ _).2] at hle
      omega
  · unfold search
    by_contra hin
    obtain ⟨e, he⟩ : ∃ e, (r.read (.search request)).2.cache.find? r.clock (Key.search request) =
        some e := Option.ne_none_iff_exists'.mp (by simpa [Cache.contains] using hin)
    obtain ⟨hmem, hlive, hkey⟩ := Cache.find?_eq_some he
    rcases mem_read hmem with hold | ⟨reading, hl, -, -, -, hprice⟩
    · exact Cache.find?_eq_none hfind hold hlive hkey
    · cases hl
      have hle := (Cache.cost_le_total hmem).trans hsolvent.total
      omega

/-! ## The accounts -/

/-- **The accounts of a registry balance.** -/
structure Balanced (capacity : Nat) (r : Registry) : Prop where
  keys : (r.cache.keys r.clock).Nodup
  /-- Everything that is live is filed under a query that some tables answer with it, at the cost of
  its kind, -/
  filed : ∀ e ∈ r.cache.live r.clock, ∃ (q : Query) (reading : Reading) (s : Store), q.Normal ∧
    e.key = q.key ∧ e.value = some reading ∧ q.load s = .ok (some reading) ∧
    e.cost = reading.cost
  /-- and together it costs what the readings cost, -/
  size : r.cache.size r.clock =
    ((r.cache.live r.clock).map fun e => (e.value.map Reading.cost).getD 0).sum
  /-- which is no more than the capacity. -/
  bound : r.cache.size r.clock ≤ capacity
  /-- A page that is too dear is told, but not kept. -/
  tooDear : ∀ request, r.cache.contains r.clock (Key.search request) = false →
    capacity < max (r.store.page request).items.length 1 →
    (r.search request).1 = .ok (some (r.store.page request)) ∧
      (r.search request).2.cache.contains r.clock (Key.search request) = false

theorem Priced.balanced (h : r.Priced capacity) : r.Balanced capacity where
  keys := h.solvent.nodup_keys r.clock
  filed e he := h.price e (Cache.mem_live.mp he).1
  size := by
    unfold Cache.size
    rw [Cache.total_eq_sum]
    refine congrArg List.sum (List.map_congr_left fun e he => ?_)
    obtain ⟨q, reading, s, -, -, hvalue, -, hcost⟩ := h.price e (Cache.mem_live.mp he).1
    rw [hcost, hvalue]
    rfl
  bound := h.capacity_eq ▸ h.solvent.size_le r.clock
  tooDear _ hmiss hdear := search_tooDear h hmiss hdear

/-- **The accounts balance**: those of a cache after every run by a clock that does not go back, and
those of a registry after every course. -/
theorem accounts_balance {α : Type} {capacity : Nat} {clock : Quantity}
    {as : List (Cache.Action α)}
    (ho : Cache.Onward (Cache.record ⟨clock, .empty capacity true⟩ as)) :
    Cache.Balanced capacity (Cache.record ⟨clock, .empty capacity true⟩ as)
      (Cache.World.after ⟨clock, .empty capacity true⟩ as) ∧
    ∀ (room : Nat) (retains : Bool) (start : Quantity) (lifetimes : Lifetimes)
      (events : List Event),
      (afterAll ⟨.empty, .empty room retains, start, lifetimes⟩ events).Balanced room :=
  ⟨Cache.balanced_after ho, fun room retains start lifetimes events =>
    (priced_afterAll (priced_empty room retains start lifetimes) events).balanced⟩

/-- A value that shrinks, one that dies, one that is too dear and one at a cost below zero. -/
def bargains : List (Cache.Action Nat) :=
  [.set "a" (some 1) (.seconds 60) (.units 2), .set "b" (some 2) (.seconds 5) (.units 1),
    .set "a" (some 3) (.seconds 60) (.units 0), .advance 10,
    .set "c" (some 4) (.seconds 60) (.units 9), .set "d" (some 5) (.seconds 60) (.units (-1)),
    .set "c" (some 6) (.seconds 30) (.units 3)]

theorem accounts_bargains :
    Cache.Onward (Cache.record ⟨0, .empty 3 true⟩ bargains) ∧
    Cache.Balanced 3 (Cache.record ⟨0, .empty 3 true⟩ bargains)
      (Cache.World.after ⟨0, .empty 3 true⟩ bargains) ∧
    (Cache.World.after ⟨0, .empty 3 true⟩ bargains).cache.size 10 = 3 ∧
    (afterAll ⟨.empty, .empty 1 true, 0, ⟨60, 60⟩⟩
      [.operation .continents, .operation (.search (.object []))]).Balanced 1 := by
  have ho : Cache.Onward (Cache.record ⟨0, .empty 3 true⟩ bargains) := by
    have hrecord : Cache.record ⟨0, .empty 3 true⟩ bargains =
        [.stored ⟨0, "a", some 1, .seconds 60, 2⟩, .stored ⟨0, "b", some 2, .seconds 5, 1⟩,
          .stored ⟨0, "a", some 3, .seconds 60, 0⟩, .passed 0 10,
          .stored ⟨10, "c", some 4, .seconds 60, 9⟩,
          .stored ⟨10, "c", some 6, .seconds 30, 3⟩] := rfl
    rw [hrecord]
    intro t u hm
    simp only [List.mem_cons, reduceCtorEq, false_or, Cache.Note.passed.injEq, List.not_mem_nil,
      or_false] at hm
    obtain ⟨rfl, rfl⟩ := hm
    exact Quantity.le_whole (by decide)
  exact ⟨ho, (accounts_balance ho).1, rfl, (accounts_balance ho).2 1 true 0 ⟨60, 60⟩ _⟩

/-- A number of seconds that no double can hold. -/
def endless : Quantity := .whole (10 ^ 400)

/-- **A value at a cost of one unit may be refused too**: half a second after zero the clock shows a
double, to which such a lifetime cannot be added. -/
theorem set_unsummable :
    Cache.Onward (Cache.record (α := Nat) ⟨0, .empty 10 true⟩
      [.advance (.real (.ofQuotient false 1 2))]) ∧
    (Cache.perform (Cache.World.after ⟨0, .empty 10 true⟩
        [.advance (.real (.ofQuotient false 1 2))])
      (.set "a" (some 1) (.seconds endless) (.units 1))).1 =
        .error (.timing .unsummable) := by
  have hclock : Clock.advance 0 (.real (.ofQuotient false 1 2)) =
      .ok (.real (.ofQuotient false 1 2)) := by decide +kernel
  have hsum : Clock.advance (.real (.ofQuotient false 1 2)) endless =
      .error .unsummable := by decide +kernel
  constructor
  · simp only [Cache.record, Cache.notes, hclock, List.append_nil]
    intro t u hm
    cases List.mem_singleton.mp hm
    exact ⟨rfl, rfl, by decide +kernel⟩
  · simp [Cache.World.after, Cache.perform, hclock, Cache.set, Cache.store, Cache.empty,
      Lifetime.expiry, hsum, Except.mapError, bind, Except.bind]

end Registry

end Gazetteer
