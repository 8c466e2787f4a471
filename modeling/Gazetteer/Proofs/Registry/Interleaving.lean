import Gazetteer.Proofs.Registry.Step
import Mathlib.Logic.Function.Basic
import Mathlib.Logic.Relation

/-!
# Clients at the same time

Any number of clients read and write through one registry, and their steps are interleaved in any
order.  A read looks its query up, takes down the generation of the cache, loads the answer from the
tables and keeps it; a write commits, and forgets all readings later.  Between two steps time may
pass, and entries of the cache may go.

What is loaded in a generation of the cache comes from the contents that the tables have had since
that generation began.  The cache keeps nothing else, and once every write has forgotten the
readings there is only one such content, that of now.

* `Traffic`, `Traffic.Step`, `Traffic.Reachable`: the registry with its clients;
* `run_read`, `run_wrote`: a read or a write without interruption is that of the registry;
* `Sound`, `sound_step`: the invariant;
* `current_of_quiet`: no stale reading is kept, and none is answered.
-/

namespace Gazetteer

open Number Store

namespace Registry

/-- The end of a read: what was loaded in a generation is kept, if it is a reading. -/
def conclude (r : Registry) (generation : Nat) (q : Query) :
    Except Store.Fault (Option Reading) → Except Fault (Option Reading) × Registry
  | .error fault => (.error (.refused fault), r)
  | .ok none => (.ok none, r)
  | .ok (some reading) => r.keep generation q reading

theorem read_of_hit {r : Registry} {q : Query} {reading : Reading}
    (h : (r.cache.get r.clock q.key).1 = some reading) :
    r.read q = (.ok (some reading), { r with cache := r.lookedUp q }) := by
  have hg : r.cache.get r.clock q.key = (some reading, r.lookedUp q) := Prod.ext h rfl
  rw [read, hg]

theorem read_of_miss {r : Registry} {q : Query} (h : (r.cache.get r.clock q.key).1 = none) :
    r.read q = { r with cache := r.lookedUp q }.conclude r.cache.generation q (q.load r.store) := by
  have hg : r.cache.get r.clock q.key = (none, r.lookedUp q) := Prod.ext h rfl
  have hgeneration : (r.lookedUp q).generation = r.cache.generation := Cache.get_generation
  rw [read, hg]
  dsimp only
  rcases q.load r.store with fault | (_ | reading)
  · rfl
  · rfl
  · rw [conclude, hgeneration]

/-- Only the cache is changed by the end of a read, and it gets one entry at most. -/
theorem conclude_frame (r : Registry) (generation : Nat) (q : Query)
    (found : Except Store.Fault (Option Reading)) :
    ∃ c, (r.conclude generation q found).2 = { r with cache := c } ∧
      c.generation = r.cache.generation ∧ ∀ e ∈ c.entries, e ∈ r.cache.entries ∨
        generation = r.cache.generation ∧
          ∃ reading, found = .ok (some reading) ∧ e.key = q.key ∧ e.value = some reading := by
  rcases found with fault | (_ | reading)
  · exact ⟨r.cache, rfl, rfl, fun e he => Or.inl he⟩
  · exact ⟨r.cache, rfl, rfl, fun e he => Or.inl he⟩
  · simp only [conclude, keep]
    split
    · next c hc =>
      refine ⟨c, rfl, (Cache.setIfCurrent_frame hc).1, fun e he => ?_⟩
      rcases Cache.mem_or_of_mem_setIfCurrent hc he with he | ⟨hg, hkey, hvalue, -⟩
      · exact Or.inl he
      · exact Or.inr ⟨hg, reading, rfl, hkey, hvalue⟩
    · exact ⟨r.cache, rfl, rfl, fun e he => Or.inl he⟩

/-- A reading is answered as it was found. -/
theorem conclude_answer {r : Registry} {generation : Nat} {q : Query}
    {found : Except Store.Fault (Option Reading)} {value : Option Reading}
    (h : (r.conclude generation q found).1 = .ok value) : found = .ok value := by
  rcases found with fault | (_ | reading)
  · cases h
  · cases h
    rfl
  · simp only [conclude, keep] at h
    split at h
    · cases h
      rfl
    · cases h

end Registry

/-! ## Clients -/

/-- **How far a client has got.**  A read carries the number of the contents that the tables had
when a write last forgot the readings before it began; it may be answered from no older ones. -/
inductive Stage where
  | idle
  | missed (q : Query) (since : Nat)
  | captured (q : Query) (since generation : Nat)
  | loaded (q : Query) (since generation : Nat) (found : Except Store.Fault (Option Reading))
  | answered (q : Query) (since : Nat) (answer : Except Registry.Fault (Option Reading))
  /-- A write that has been committed, but has not forgotten the readings yet. -/
  | committed

/-- A client that may begin something. -/
def Stage.isFree : Stage → Bool
  | .idle | .answered .. => true
  | _ => false

/-- **A registry with its clients.** -/
structure Traffic where
  registry : Registry
  /-- The contents that the tables have had before, the oldest first.  Neither these nor `settled`
  have any influence on what happens. -/
  history : List Store
  /-- The number of the contents that the tables had when a write last forgot the readings. -/
  settled : Nat
  clients : Nat → Stage

namespace Traffic

/-- Contents of the tables by their numbers, those of now included. -/
def version? (t : Traffic) (n : Nat) : Option Store := (t.history ++ [t.registry.store])[n]?

/-- A client has got somewhere. -/
def move (t : Traffic) (client : Nat) (stage : Stage) : Traffic :=
  { t with clients := Function.update t.clients client stage }

/-- **A step** of a client, of time, or of the cache. -/
inductive Step (t : Traffic) : Traffic → Prop
  | time (clock : Quantity) (h : t.registry.clock.Le clock) :
      Step t { t with registry := { t.registry with clock } }
  /-- Entries go, and entries of other families come. -/
  | evict (entries : List (CacheEntry Reading))
      (h : ∀ e ∈ entries, e ∈ t.registry.cache.entries ∨ ¬ Cache.isUnder Key.family e.key) :
      Step t { t with registry := { t.registry with cache := { t.registry.cache with entries } } }
  /-- Readings are forgotten apart from any write. -/
  | forget (family : String) : Step t { t with registry := (t.registry.invalidate family).2 }
  | hit (client : Nat) (q : Query) (reading : Reading) (hfree : (t.clients client).isFree)
      (hq : q.Normal) (hg : (t.registry.cache.get t.registry.clock q.key).1 = some reading) :
      Step t ({ t with registry := { t.registry with cache := t.registry.lookedUp q } }.move client
        (.answered q t.settled (.ok (some reading))))
  | miss (client : Nat) (q : Query) (hfree : (t.clients client).isFree) (hq : q.Normal)
      (hg : (t.registry.cache.get t.registry.clock q.key).1 = none) :
      Step t ({ t with registry := { t.registry with cache := t.registry.lookedUp q } }.move client
        (.missed q t.settled))
  | capture (client : Nat) {q : Query} {since : Nat} (hc : t.clients client = .missed q since) :
      Step t (t.move client (.captured q since t.registry.cache.generation))
  | load (client : Nat) {q : Query} {since generation : Nat}
      (hc : t.clients client = .captured q since generation) :
      Step t (t.move client (.loaded q since generation (q.load t.registry.store)))
  | conclude (client : Nat) {q : Query} {since generation : Nat}
      {found : Except Store.Fault (Option Reading)}
      (hc : t.clients client = .loaded q since generation found) :
      Step t ({ t with registry := (t.registry.conclude generation q found).2 }.move client
        (.answered q since (t.registry.conclude generation q found).1))
  | commit (client : Nat) (store : Store) (hfree : (t.clients client).isFree) :
      Step t ({ t with
        registry := { t.registry with store }
        history := t.history ++ [t.registry.store] }.move client .committed)
  | invalidate (client : Nat) (hc : t.clients client = .committed) :
      Step t ({ t with
        registry := (t.registry.invalidate Key.family).2
        settled := t.history.length }.move client .idle)

/-- **What can be reached** from a registry without readings whose clients are idle. -/
def Reachable (t : Traffic) : Prop :=
  ∃ r : Registry, (∀ e ∈ r.cache.entries, ¬ Cache.isUnder Key.family e.key) ∧
    Relation.ReflTransGen Step ⟨r, [], 0, fun _ => .idle⟩ t

/-- No write has still to forget the readings. -/
def Quiet (t : Traffic) : Prop := ∀ client, t.clients client ≠ .committed

/-! ## Without interruption -/

theorem move_move (t : Traffic) (client : Nat) (a b : Stage) :
    (t.move client a).move client b = t.move client b := by
  simp [move]

theorem clients_move (t : Traffic) (client : Nat) (a : Stage) :
    (t.move client a).clients client = a := by
  simp [move]

theorem run_missed (t : Traffic) {client : Nat} {q : Query} {since : Nat}
    (hc : t.clients client = .missed q since) : Relation.ReflTransGen Step t
      ({ t with registry := (t.registry.conclude t.registry.cache.generation q
          (q.load t.registry.store)).2 }.move client (.answered q since
        (t.registry.conclude t.registry.cache.generation q (q.load t.registry.store)).1)) := by
  generalize hg : t.registry.cache.generation = generation
  generalize hl : q.load t.registry.store = found
  have hcapture := Step.capture client hc
  rw [hg] at hcapture
  have hload := Step.load client (t.clients_move client (.captured q since generation))
  rw [move_move, show (t.move client (.captured q since generation)).registry = t.registry from rfl,
    hl] at hload
  have hconclude := Step.conclude client (t.clients_move client (.loaded q since generation found))
  exact ((Relation.ReflTransGen.single hcapture).tail hload).tail
    (by simpa [move] using hconclude)

/-- **A read without interruption** is that of the registry. -/
theorem run_read (t : Traffic) {client : Nat} {q : Query} (hfree : (t.clients client).isFree)
    (hq : q.Normal) : Relation.ReflTransGen Step t
      ({ t with registry := (t.registry.read q).2 }.move client
        (.answered q t.settled (t.registry.read q).1)) := by
  cases hg : (t.registry.cache.get t.registry.clock q.key).1 with
  | some reading =>
    rw [Registry.read_of_hit hg]
    exact .single (.hit client q reading hfree hq hg)
  | none =>
    have hgeneration : (t.registry.lookedUp q).generation = t.registry.cache.generation :=
      Cache.get_generation
    have hrest := run_missed _ (clients_move
      { t with registry := { t.registry with cache := t.registry.lookedUp q } } client
      (.missed q t.settled))
    rw [Registry.read_of_miss hg]
    refine .head (.miss client q hfree hq hg) ?_
    simpa [move, hgeneration] using hrest

/-- **A write without interruption** is that of the registry. -/
theorem run_wrote (t : Traffic) {client : Nat} (store : Store)
    (hfree : (t.clients client).isFree) : Relation.ReflTransGen Step t
      ({ t with
        registry := t.registry.wrote store
        history := t.history ++ [t.registry.store]
        settled := (t.history ++ [t.registry.store]).length }.move client .idle) := by
  have hinvalidate := Step.invalidate client (clients_move { t with
    registry := { t.registry with store }
    history := t.history ++ [t.registry.store] } client .committed)
  refine (Relation.ReflTransGen.single (.commit client store hfree)).tail ?_
  simpa [move, Registry.wrote] using hinvalidate

/-! ## The invariant -/

/-- **Some contents of the tables answer a query in this way**, contents with a number from `since`
on. -/
def Gives (t : Traffic) (since : Nat) (q : Query) (found : Except Store.Fault (Option Reading)) :
    Prop := ∃ n store, since ≤ n ∧ t.version? n = some store ∧ q.load store = found

/-- What holds of a reading that is kept. -/
def Kept (t : Traffic) (e : CacheEntry Reading) : Prop := ∃ (q : Query) (reading : Reading),
  q.Normal ∧ e.key = q.key ∧ e.value = some reading ∧ t.Gives t.settled q (.ok (some reading))

/-- What holds of a client.  A generation that is over is of no use to it any more. -/
def Honest (t : Traffic) : Stage → Prop
  | .idle | .committed => True
  | .missed q since => q.Normal ∧ since ≤ t.settled
  | .captured q since generation =>
    q.Normal ∧ since ≤ t.settled ∧ generation ≤ t.registry.cache.generation
  | .loaded q since generation found =>
    q.Normal ∧ generation ≤ t.registry.cache.generation ∧ t.Gives since q found ∧
      (generation = t.registry.cache.generation → t.Gives t.settled q found)
  | .answered q since answer => ∀ value, answer = .ok value → t.Gives since q (.ok value)

/-- **The invariant.** -/
structure Sound (t : Traffic) : Prop where
  settled_le : t.settled ≤ t.history.length
  pending : t.settled = t.history.length ∨ ∃ client, t.clients client = .committed
  kept : ∀ e ∈ t.registry.cache.entries, e.isLive t.registry.clock →
    Cache.isUnder Key.family e.key → t.Kept e
  honest : ∀ client, t.Honest (t.clients client)

/-- What every step leads to: contents keep their numbers, and the contents that count change in a
new generation only. -/
structure Follows (t t' : Traffic) : Prop where
  version : ∀ {n store}, t.version? n = some store → t'.version? n = some store
  settled_le : t.settled ≤ t'.settled
  generation_le : t.registry.cache.generation ≤ t'.registry.cache.generation
  settled_eq : t.registry.cache.generation = t'.registry.cache.generation → t.settled = t'.settled

section
variable {t t' : Traffic} {since : Nat} {q : Query}
  {found : Except Store.Fault (Option Reading)} {e : CacheEntry Reading}

/-- The tables answer as their contents of now. -/
theorem gives_load (h : since ≤ t.history.length) (q : Query) :
    t.Gives since q (q.load t.registry.store) :=
  ⟨t.history.length, t.registry.store, h, by simp [version?], rfl⟩

theorem Follows.gives (hf : Follows t t') (h : t.Gives since q found) : t'.Gives since q found := by
  obtain ⟨n, store, hn, hv, hl⟩ := h
  exact ⟨n, store, hn, hf.version hv, hl⟩

theorem Follows.kept (hf : Follows t t') (hs : t'.settled = t.settled) (h : t.Kept e) :
    t'.Kept e := by
  obtain ⟨q, reading, hq, hkey, hvalue, hg⟩ := h
  exact ⟨q, reading, hq, hkey, hvalue, hs ▸ hf.gives hg⟩

theorem Follows.honest (hf : Follows t t') {stage : Stage} (h : t.Honest stage) :
    t'.Honest stage := by
  cases stage with
  | idle | committed => trivial
  | missed q since => exact ⟨h.1, h.2.trans hf.settled_le⟩
  | captured q since generation =>
    exact ⟨h.1, h.2.1.trans hf.settled_le, h.2.2.trans hf.generation_le⟩
  | loaded q since generation found =>
    obtain ⟨hq, hle, hg, hcurrent⟩ := h
    refine ⟨hq, hle.trans hf.generation_le, hf.gives hg, fun heq => ?_⟩
    -- the generation is still the same, and so are the contents that count
    have hsame : generation = t.registry.cache.generation :=
      le_antisymm hle (heq ▸ hf.generation_le)
    rw [← hf.settled_eq (hsame ▸ heq)]
    exact hf.gives (hcurrent hsame)
  | answered q since answer => exact fun value hv => hf.gives (h value hv)

/-- The registry is left as it is but for its cache, and no generation ends. -/
theorem follows_cache (t : Traffic) {c : Cache Reading}
    (hc : c.generation = t.registry.cache.generation) (client : Nat) (stage : Stage) :
    Follows t ({ t with registry := { t.registry with cache := c } }.move client stage) where
  version h := h
  settled_le := le_rfl
  generation_le := hc.ge
  settled_eq _ := rfl

/-- One client has moved. -/
theorem honest_move {client : Nat} {stage : Stage} (h : Sound t)
    (hf : Follows t (t'.move client stage)) (hclients : t'.clients = t.clients)
    (hstage : (t'.move client stage).Honest stage) (c : Nat) :
    (t'.move client stage).Honest ((t'.move client stage).clients c) := by
  by_cases hc : c = client
  · rw [hc, clients_move]
    exact hstage
  · have hsame : (t'.move client stage).clients c = t.clients c := by
      simp [move, Function.update_of_ne hc, hclients]
    rw [hsame]
    exact hf.honest (h.honest c)

/-- A client other than a write has moved: the writes that were pending still are. -/
theorem pending_move {client : Nat} (h : Sound t) (hc : t.clients client ≠ .committed)
    (stage : Stage) : t.settled = t.history.length ∨
      ∃ c, Function.update t.clients client stage c = .committed := by
  refine h.pending.imp_right ?_
  rintro ⟨c, hcommitted⟩
  have hne : c ≠ client := by
    rintro rfl
    exact hc hcommitted
  exact ⟨c, by rw [Function.update_of_ne hne, hcommitted]⟩

theorem ne_committed_of_isFree {stage : Stage} (h : stage.isFree) : stage ≠ .committed := by
  rintro rfl
  cases h

/-- **A step of a read**: one client moves, and the cache gets what is worth keeping at most. -/
theorem sound_read {client : Nat} {stage : Stage} {c : Cache Reading} (h : Sound t)
    (hclient : t.clients client ≠ .committed)
    (hgeneration : c.generation = t.registry.cache.generation)
    (hentries : ∀ e ∈ c.entries, e ∈ t.registry.cache.entries ∨ t.Kept e)
    (hstage :
      ({ t with registry := { t.registry with cache := c } }.move client stage).Honest stage) :
    Sound ({ t with registry := { t.registry with cache := c } }.move client stage) := by
  have hf := follows_cache t hgeneration client stage
  refine ⟨h.settled_le, pending_move h hclient stage, fun e he hl hu => ?_,
    honest_move h hf rfl hstage⟩
  rcases hentries e he with he | hkept
  · exact hf.kept rfl (h.kept e he hl hu)
  · exact hf.kept rfl hkept

end

/-- **Every step preserves the invariant.** -/
theorem sound_step {t t' : Traffic} (h : Sound t) (hs : Step t t') : Sound t' := by
  cases hs with
  | time clock hle =>
    have hf : Follows t { t with registry := { t.registry with clock } } :=
      ⟨fun h => h, le_rfl, le_rfl, fun _ => rfl⟩
    refine ⟨h.settled_le, h.pending, fun e he hl hu => ?_, fun c => hf.honest (h.honest c)⟩
    exact hf.kept rfl (h.kept e he (Cache.isLive_of_le hle hl) hu)
  | evict entries hentries =>
    have hf : Follows t
        { t with registry := { t.registry with cache := { t.registry.cache with entries } } } :=
      ⟨fun h => h, le_rfl, le_rfl, fun _ => rfl⟩
    refine ⟨h.settled_le, h.pending, fun e he hl hu => ?_, fun c => hf.honest (h.honest c)⟩
    rcases hentries e he with he | hother
    · exact hf.kept rfl (h.kept e he hl hu)
    · exact absurd hu hother
  | forget family =>
    have hf : Follows t { t with registry := (t.registry.invalidate family).2 } :=
      ⟨fun h => h, le_rfl, Nat.le_succ _, fun _ => rfl⟩
    refine ⟨h.settled_le, h.pending, fun e he hl hu => ?_, fun c => hf.honest (h.honest c)⟩
    exact hf.kept rfl (h.kept e (Cache.mem_invalidate.mp he).1 hl hu)
  | hit client q reading hfree hq hg =>
    have hgives : t.Gives t.settled q (.ok (some reading)) :=
      Registry.of_hit (P := fun q reading => t.Gives t.settled q (.ok (some reading))) h.kept hq hg
    refine sound_read h (ne_committed_of_isFree hfree) Cache.get_generation
      (fun e he => Or.inl (Cache.mem_of_mem_get he)) ?_
    rintro value hvalue
    cases hvalue
    exact hgives
  | miss client q hfree hq hg =>
    exact sound_read h (ne_committed_of_isFree hfree) Cache.get_generation
      (fun e he => Or.inl (Cache.mem_of_mem_get he)) ⟨hq, le_rfl⟩
  | @capture client q since hc =>
    have hmissed := h.honest client
    rw [hc] at hmissed
    exact sound_read h (by simp [hc]) rfl (fun e he => Or.inl he) ⟨hmissed.1, hmissed.2, le_rfl⟩
  | @load client q since generation hc =>
    have hcaptured := h.honest client
    rw [hc] at hcaptured
    obtain ⟨hq, hsince, hle⟩ := hcaptured
    exact sound_read h (by simp [hc]) rfl (fun e he => Or.inl he)
      ⟨hq, hle, gives_load (hsince.trans h.settled_le) q, fun _ => gives_load h.settled_le q⟩
  | @conclude client q since generation found hc =>
    have hloaded := h.honest client
    rw [hc] at hloaded
    obtain ⟨hq, -, hgives, hcurrent⟩ := hloaded
    obtain ⟨c, hr, hgeneration, hentries⟩ := t.registry.conclude_frame generation q found
    rw [hr]
    refine sound_read h (by simp [hc]) hgeneration (fun e he => ?_) fun value hvalue => ?_
    · rcases hentries e he with he | ⟨hsame, reading, rfl, hkey, hvalue⟩
      · exact Or.inl he
      · exact Or.inr ⟨q, reading, hq, hkey, hvalue, hcurrent hsame⟩
    · rw [← Registry.conclude_answer hvalue]
      exact hgives
  | commit client store hfree =>
    have hf : Follows t ({ t with
        registry := { t.registry with store }
        history := t.history ++ [t.registry.store] }.move client .committed) := by
      refine ⟨fun hv => ?_, le_rfl, le_rfl, fun _ => rfl⟩
      exact (List.getElem?_append_left (List.getElem?_eq_some_iff.mp hv).1).trans hv
    refine ⟨?_, Or.inr ⟨client, clients_move _ client .committed⟩, fun e he hl hu => ?_,
      honest_move h hf rfl trivial⟩
    · simpa [move] using h.settled_le.trans (Nat.le_succ _)
    · exact hf.kept rfl (h.kept e he hl hu)
  | invalidate client hc =>
    have hf : Follows t ({ t with
        registry := (t.registry.invalidate Key.family).2
        settled := t.history.length }.move client .idle) := by
      refine ⟨fun hv => hv, h.settled_le, Nat.le_succ _, fun heq => ?_⟩
      exact absurd heq (Nat.succ_ne_self _).symm
    refine ⟨le_rfl, Or.inl rfl, fun e he hl hu => ?_, honest_move h hf rfl trivial⟩
    -- nothing that is live has remained
    exact absurd ⟨hu, hl⟩ (Cache.mem_invalidate.mp he).2

theorem sound_of_reachable {t : Traffic} (h : Reachable t) : Sound t := by
  obtain ⟨r, hr, hrun⟩ := h
  induction hrun with
  | refl =>
    exact ⟨le_rfl, Or.inl rfl, fun e he _ hu => absurd hu (hr e he), fun _ => trivial⟩
  | tail _ hs ih => exact sound_step ih hs

/-- **No stale reading is kept or answered.**  While no write has still to forget the readings,
every live reading is what the tables answer now, and a read that begins then is numbered with their
contents of now.  And no read, whenever it began, is answered from contents before its number. -/
theorem current_of_quiet {t : Traffic} (h : Reachable t) :
    (t.Quiet → t.settled = t.history.length ∧
      ∀ e ∈ t.registry.cache.entries, e.isLive t.registry.clock →
        Cache.isUnder Key.family e.key →
          ∃ q : Query, q.Normal ∧ e.key = q.key ∧ q.load t.registry.store = .ok e.value) ∧
      ∀ client q since value, t.clients client = .answered q since (.ok value) →
        ∃ n store, since ≤ n ∧ t.version? n = some store ∧ q.load store = .ok value := by
  have hs := sound_of_reachable h
  refine ⟨fun hquiet => ?_, fun client q since value hc => ?_⟩
  · have hsettled : t.settled = t.history.length :=
      hs.pending.resolve_right fun ⟨client, hc⟩ => hquiet client hc
    refine ⟨hsettled, fun e he hl hu => ?_⟩
    obtain ⟨q, reading, hq, hkey, hvalue, n, store, hn, hv, hload⟩ := hs.kept e he hl hu
    -- there is one number from `settled` on, that of the contents of now
    have hlt := (List.getElem?_eq_some_iff.mp hv).1
    obtain rfl : n = t.history.length := by
      simp only [List.length_append, List.length_singleton] at hlt
      omega
    have hnow : store = t.registry.store := by simpa [version?, eq_comm] using hv
    exact ⟨q, hq, hkey, by rw [← hnow, hload, hvalue]⟩
  · have hanswered := hs.honest client
    rw [hc] at hanswered
    exact hanswered value rfl

/-- A country before and after it was given another name. -/
def renamed : Store × Store :=
  (⟨[⟨1, "Zaire", "Africa", "ZR", "ZAR", 0, 0⟩], []⟩,
    ⟨[⟨1, "Congo", "Africa", "CD", "COD", 0, 5⟩], []⟩)

/-- While client 0 reads the country, client 1 gives it another name: what client 0 has loaded by
then is answered, but it is not kept.  What client 2 is answered after that is kept, and live. -/
theorem current_after_race : ∃ t : Traffic, t.Reachable ∧ t.Quiet ∧
    t.history = [renamed.1] ∧ t.registry.store = renamed.2 ∧
    (∃ e, t.registry.cache.entries = [e] ∧ e.isLive t.registry.clock ∧
      Cache.isUnder Key.family e.key ∧ e.key = (Query.country 1).key ∧
      e.value = (renamed.2.detail? 1).map .country) ∧
    (t.clients 0 = .answered (.country 1) 0 (.ok ((renamed.1.detail? 1).map .country)) ∧
      ∃ n store, 0 ≤ n ∧ t.version? n = some store ∧
        Query.load store (.country 1) = .ok ((renamed.1.detail? 1).map .country)) ∧
    (t.settled = t.history.length ∧
      ∀ e ∈ t.registry.cache.entries, e.isLive t.registry.clock →
        Cache.isUnder Key.family e.key →
          ∃ q : Query, q.Normal ∧ e.key = q.key ∧ q.load t.registry.store = .ok e.value) := by
  suffices h : ∃ t : Traffic, t.Reachable ∧ t.Quiet ∧ t.history = [renamed.1] ∧
      t.registry.store = renamed.2 ∧
      (∃ e, t.registry.cache.entries = [e] ∧ e.isLive t.registry.clock ∧
        Cache.isUnder Key.family e.key ∧ e.key = (Query.country 1).key ∧
        e.value = (renamed.2.detail? 1).map .country) ∧
      t.clients 0 = .answered (.country 1) 0 (.ok ((renamed.1.detail? 1).map .country)) by
    obtain ⟨t, hreach, hquiet, hhistory, hstore, hentry, hc⟩ := h
    exact ⟨t, hreach, hquiet, hhistory, hstore, hentry,
      ⟨hc, (current_of_quiet hreach).2 0 (.country 1) 0 _ hc⟩, (current_of_quiet hreach).1 hquiet⟩
  have hrace := ((((((Relation.ReflTransGen.refl (r := Step)
    (a := ⟨⟨renamed.1, .empty 1 true, 0, ⟨60, 60⟩⟩, [], 0, fun _ => .idle⟩)).tail
    (.miss 0 (.country 1) rfl trivial rfl)).tail (.capture 0 rfl)).tail (.load 0 rfl)).tail
    (.commit 1 renamed.2 rfl)).tail (.invalidate 1 rfl)).tail (.conclude 0 rfl)
  have hrun := (((hrace.tail (.miss 2 (.country 1) rfl trivial rfl)).tail (.capture 2 rfl)).tail
    (.load 2 rfl)).tail (.conclude 2 rfl)
  refine ⟨_, ⟨_, by simp [Cache.empty], hrun⟩, fun client => ?_, rfl, rfl,
    ⟨_, rfl, rfl, rfl, rfl, rfl⟩, rfl⟩
  by_cases h₀ : client = 0
  · subst h₀
    exact nofun
  · by_cases h₁ : client = 1
    · subst h₁
      exact nofun
    · by_cases h₂ : client = 2
      · subst h₂
        exact nofun
      · simp [move, h₀, h₁, h₂]

end Traffic

end Gazetteer
