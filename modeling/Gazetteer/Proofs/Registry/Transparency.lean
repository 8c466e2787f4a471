import Gazetteer.Proofs.Registry.Step

/-!
# Nobody can tell that there is a cache

A registry whose cache keeps readings answers every operation of the service as a registry whose
cache keeps nothing.  What carries this over a run is that every live reading is *fresh*: it is what
its query would load from the tables now.  A write forgets all live readings, and those that are
dead by then stay dead as long as the clock is not set back.

* `Event`, `Registry.story`: a run and all that is told in it;
* `Timely`: a run in which time passes as it should;
* `Fresh`, `fresh_change`: the invariant;
* `read_told`: a fresh reading is the one that the tables give;
* `told_beside_bare`: one event, told with a cache and without;
* `story_cached_eq_uncached`: both registries tell the same story.
-/

namespace Gazetteer

open Number Store

/-- **An event in the life of a registry**: an operation, or that dead readings are swept out. -/
inductive Event where
  | operation (op : Operation)
  | sweep

/-- An event other than work on the tables behind the registry's back. -/
def Event.IsService : Event → Prop
  | .operation op => op.isService
  | .sweep => True

namespace Registry

/-! ## Runs -/

/-- The registry after an event. -/
def after (r : Registry) : Event → Registry
  | .operation op => (r.perform op).2
  | .sweep => r.sweep

/-- What an event tells: the answer of an operation, an invalidation without the number of readings
that it has forgotten. -/
def told (r : Registry) : Event → Option (Except Failure Answer)
  | .operation (.invalidate _) => some (.ok .done)
  | .operation op => some (r.perform op).1
  | .sweep => none

/-- **All that is told in a row of events.** -/
def story (r : Registry) : List Event → List (Option (Except Failure Answer))
  | [] => []
  | e :: es => r.told e :: (r.after e).story es

end Registry

/-! ## Time in a run -/

/-- The clock after an event. -/
def Event.clockAfter (clock : Quantity) : Event → Quantity
  | .operation (.advance seconds) => Clock.after clock seconds
  | _ => clock

/-- All lifetimes that begin at a time have an end. -/
def Lifetimes.HaveEnds (lifetimes : Lifetimes) (clock : Quantity) : Prop :=
  ∀ q : Query, ∃ expiry,
    Lifetime.expiry clock (.seconds (.whole (q.lifetime lifetimes))) = .ok expiry

/-- **Time is in order** during a row of events: none of them sets the clock back, and at each of
them the lifetimes have ends. -/
def Timely (lifetimes : Lifetimes) (clock : Quantity) : List Event → Prop
  | [] => True
  | e :: es => lifetimes.HaveEnds clock ∧ clock.Le (e.clockAfter clock) ∧
    Timely lifetimes (e.clockAfter clock) es

/-- Time is in order if it passes by whole seconds. -/
theorem timely_of_whole (lifetimes : Lifetimes) {n : Int} {events : List Event}
    (h : ∀ seconds, .operation (.advance seconds) ∈ events →
      ∃ k : Nat, seconds = .whole k) : Timely lifetimes (.whole n) events := by
  induction events generalizing n with
  | nil => trivial
  | cons e events ih =>
    have hrest : ∀ seconds, .operation (.advance seconds) ∈ events →
        ∃ k : Nat, seconds = .whole k :=
      fun seconds hs => h seconds (List.mem_cons_of_mem e hs)
    obtain ⟨m, hm, he⟩ : ∃ m : Int, n ≤ m ∧ e.clockAfter (.whole n) = .whole m := by
      unfold Event.clockAfter
      split
      · obtain ⟨k, rfl⟩ := h _ List.mem_cons_self
        exact ⟨n + k, by omega, rfl⟩
      · exact ⟨n, le_rfl, rfl⟩
    rw [Timely, he]
    exact ⟨fun q => ⟨_, rfl⟩, Quantity.le_whole hm, ih hrest⟩

namespace Registry

/-! ## Live readings are fresh -/

/-- **Every live reading is what its query would load now.** -/
def Fresh (r : Registry) : Prop :=
  ∀ e ∈ r.cache.entries, e.isLive r.clock → ∃ (q : Query) (reading : Reading),
    q.Normal ∧ e.key = q.key ∧ e.value = some reading ∧ q.load r.store = .ok (some reading)

theorem fresh_sweep {r : Registry} (h : r.Fresh) : r.sweep.Fresh :=
  fun e he hl => h e (Cache.mem_sweep.mp he).1 hl

/-- After a write nothing is live: fresh readings have keys of the family that is forgotten. -/
theorem fresh_wrote {r : Registry} (h : r.Fresh) (store : Store) : (r.wrote store).Fresh := by
  intro e he hl
  obtain ⟨hmem, hnot⟩ := Cache.mem_invalidate.mp he
  obtain ⟨q, -, -, hkey, -⟩ := h e hmem hl
  exact absurd ⟨hkey ▸ q.isUnder_key, hl⟩ hnot

/-- **Changes keep readings fresh.** -/
theorem fresh_change {r r' : Registry} (h : r.Fresh) (hc : r.Change r') : r'.Fresh := by
  cases hc with
  | nothing => exact h
  | reading q hq =>
    intro e he hl
    obtain ⟨c, hr⟩ := read_frame r q
    rw [hr] at hl ⊢
    rcases mem_read he with he | ⟨reading, hload, hkey, hvalue, -⟩
    · exact h e he hl
    · exact ⟨q, reading, hq, hkey, hvalue, hload⟩
  | forgetting family => exact fun e he hl => h e (Cache.mem_invalidate.mp he).1 hl
  | writing store => exact fresh_wrote h store

/-- **So does time that is not set back.** -/
theorem fresh_time {r : Registry} {clock : Quantity} (h : r.Fresh) (ht : r.clock.Le clock) :
    { r with clock }.Fresh :=
  fun e he hl => h e he (Cache.isLive_of_le ht hl)

theorem fresh_after {r : Registry} {e : Event} (h : r.Fresh) (hs : e.IsService)
    (ht : r.clock.Le (e.clockAfter r.clock)) : (r.after e).Fresh := by
  cases e with
  | sweep => exact fresh_sweep h
  | operation op =>
    by_cases hadvance : ∃ seconds, op = .advance seconds
    · obtain ⟨seconds, rfl⟩ := hadvance
      rw [after, perform_advance]
      exact fresh_time h ht
    · exact fresh_change h (change_perform r hs fun seconds ho => hadvance ⟨seconds, ho⟩)

theorem after_frame (r : Registry) {e : Event} (hs : e.IsService) :
    (r.after e).clock = e.clockAfter r.clock ∧ (r.after e).lifetimes = r.lifetimes := by
  cases e with
  | sweep => exact ⟨rfl, rfl⟩
  | operation op =>
    by_cases hadvance : ∃ seconds, op = .advance seconds
    · obtain ⟨seconds, rfl⟩ := hadvance
      rw [after, perform_advance]
      exact ⟨rfl, rfl⟩
    · have hc := change_perform r hs fun seconds ho => hadvance ⟨seconds, ho⟩
      have hclock : Event.clockAfter r.clock (.operation op) = r.clock := by
        unfold Event.clockAfter
        split
        · next ho => cases ho; exact absurd ⟨_, rfl⟩ hadvance
        · rfl
      rw [hclock]
      exact hc.frame

/-- No reading is refused by the cache while lifetimes have ends. -/
theorem exists_kept (r : Registry) (hk : r.lifetimes.HaveEnds r.clock) (q : Query)
    (reading : Reading) : ∃ c, (r.lookedUp q).setIfCurrent r.clock (r.lookedUp q).generation q.key
      reading (r.lifetime q) (.units reading.cost) = .ok c := by
  obtain ⟨expiry, hx⟩ : ∃ expiry, (r.lifetime q).expiry r.clock = .ok expiry := hk q
  exact Cache.setIfCurrent_units hx reading.cost

/-- **A reading is answered as the tables answer it.** -/
theorem read_told {r : Registry} {q : Query} (h : r.Fresh) (hq : q.Normal)
    (hk : r.lifetimes.HaveEnds r.clock) :
    (r.read q).1 = (q.load r.store).mapError .refused := by
  have hr := readsTo r q
  generalize r.read q = x at hr
  cases hr with
  | hit reading hg =>
    have hload : q.load r.store = .ok (some reading) :=
      of_hit (P := fun q reading => q.load r.store = .ok (some reading))
        (fun e he hl _ => h e he hl) hq hg
    rw [hload]
    rfl
  | refused fault hg hl => rw [hl]; rfl
  | absent hg hl => rw [hl]; rfl
  | kept reading c hg hl hc => rw [hl]; rfl
  | uncached reading fault hg hl hc =>
    obtain ⟨c, hc'⟩ := r.exists_kept hk q reading
    rw [hc] at hc'
    cases hc'

/-! ## A registry beside one without a cache -/

/-- **A cache that keeps nothing.** -/
structure Bare (c : Cache Reading) : Prop where
  entries : c.entries = []
  retains : c.retains = false

theorem bare_invalidate {c : Cache Reading} (h : Bare c) (now : Quantity) (family : String) :
    Bare (c.invalidate now family).2 := by
  refine ⟨?_, h.retains⟩
  simp [Cache.invalidate, h.entries]

theorem bare_sweep {c : Cache Reading} (h : Bare c) (now : Quantity) : Bare (c.sweep now) := by
  refine ⟨?_, h.retains⟩
  simp [Cache.sweep, Cache.live, h.entries]

/-- Such a cache is of no use to a reading. -/
theorem read_of_bare {n : Registry} (h : Bare n.cache) (q : Query) :
    n.read q = ((q.load n.store).mapError .refused, n) := by
  have hg : n.cache.get n.clock q.key = (none, n.cache) :=
    Cache.get_of_find?_eq_none (by simp [Cache.find?, Cache.live, h.entries])
  have hc : n.lookedUp q = n.cache := by rw [lookedUp, hg]
  have hr := readsTo n q
  generalize n.read q = x at hr
  cases hr with
  | hit reading hhit => rw [hg] at hhit; cases hhit
  | refused fault _ hl => rw [hl, hc]; rfl
  | absent _ hl => rw [hl, hc]; rfl
  | kept reading c _ hl hset =>
    rw [hc] at hset
    simp only [Cache.setIfCurrent, Cache.set, h.retains, if_true, Bool.not_false] at hset
    cases hset
    rw [hl]
    rfl
  | uncached reading fault _ hl hset =>
    rw [hc] at hset
    simp only [Cache.setIfCurrent, Cache.set, h.retains, if_true, Bool.not_false] at hset
    cases hset

section
variable {r : Registry} {c : Cache Reading} (hc : Bare c) (hf : r.Fresh)
  (hk : r.lifetimes.HaveEnds r.clock)
include hc hf hk

theorem read_beside_bare {q : Query} (hq : q.Normal) :
    { r with cache := c }.read q = ((r.read q).1, { (r.read q).2 with cache := c }) := by
  obtain ⟨d, hd⟩ := read_frame r q
  rw [read_of_bare hc, read_told hf hq hk, hd]

end

/-- A cache into which nothing has been put: it is what it was, or has been invalidated. -/
def Unread (now : Quantity) (c c' : Cache Reading) : Prop :=
  c' = c ∨ ∃ family, c' = (c.invalidate now family).2

theorem bare_of_unread {now : Quantity} {c c' : Cache Reading} (h : Unread now c c')
    (hc : Bare c) : Bare c' := by
  rcases h with rfl | ⟨family, rfl⟩
  · exact hc
  · exact bare_invalidate hc now family

section
variable (r : Registry) (c : Cache Reading)

theorem create_with_cache (d : Country.Draft) :
    ∃ c', { r with cache := c }.create d = ((r.create d).1, { (r.create d).2 with cache := c' }) ∧
      Unread r.clock c c' := by
  simp only [create_eq, now]
  cases (Instant.ofClock r.clock).mapError Fault.untimely with
  | error fault => exact ⟨c, rfl, Or.inl rfl⟩
  | ok now =>
    dsimp only
    cases r.store.create now (columns d.fields) with
    | error fault => exact ⟨c, rfl, Or.inl rfl⟩
    | ok x => exact ⟨_, rfl, Or.inr ⟨Key.family, rfl⟩⟩

theorem update_with_cache (id : Int) (d : Country.Draft) :
    ∃ c', { r with cache := c }.update id d =
        ((r.update id d).1, { (r.update id d).2 with cache := c' }) ∧ Unread r.clock c c' := by
  simp only [update_eq, Registry.contains, now]
  rcases (r.store.contains id).mapError Fault.refused with fault | (_ | _)
  · exact ⟨c, rfl, Or.inl rfl⟩
  · exact ⟨c, rfl, Or.inl rfl⟩
  · dsimp only
    cases (Instant.ofClock r.clock).mapError Fault.untimely with
    | error fault => exact ⟨c, rfl, Or.inl rfl⟩
    | ok now =>
      dsimp only
      rcases r.store.replace now id (columns d.fields) with fault | (_ | x)
      · exact ⟨c, rfl, Or.inl rfl⟩
      · exact ⟨c, rfl, Or.inl rfl⟩
      · exact ⟨_, rfl, Or.inr ⟨Key.family, rfl⟩⟩

theorem delete_with_cache (id : Int) :
    ∃ c', { r with cache := c }.delete id =
        ((r.delete id).1, { (r.delete id).2 with cache := c' }) ∧ Unread r.clock c c' := by
  simp only [delete_eq]
  rcases r.store.remove id with fault | (_ | t)
  · exact ⟨c, rfl, Or.inl rfl⟩
  · exact ⟨c, rfl, Or.inl rfl⟩
  · exact ⟨_, rfl, Or.inr ⟨Key.family, rfl⟩⟩

/-- Operations that do not look up the cache answer the same whatever is in it. -/
theorem perform_with_cache {op : Operation} (hs : op.isService) (hget : ∀ id, op ≠ .get id)
    (hsearch : ∀ data, op ≠ .search data) (hcontinents : op ≠ .continents)
    (hinvalidate : ∀ family, op ≠ .invalidate family) :
    ∃ c', { r with cache := c }.perform op =
        ((r.perform op).1, { (r.perform op).2 with cache := c' }) ∧ Unread r.clock c c' := by
  have hsame : Unread r.clock c c := Or.inl rfl
  cases op with
  | advance seconds =>
    simp only [perform, advance]
    cases Clock.advance r.clock seconds <;> exact ⟨c, rfl, hsame⟩
  | create data changes =>
    simp only [perform]
    cases draft .creation data changes with
    | error failure => exact ⟨c, rfl, hsame⟩
    | ok d =>
      obtain ⟨c', hcreate, hc'⟩ := create_with_cache r c d
      exact ⟨c', by simp only [answer, hcreate], hc'⟩
  | update id data changes =>
    simp only [perform]
    cases draft .replacement data changes with
    | error failure => exact ⟨c, rfl, hsame⟩
    | ok d =>
      obtain ⟨c', hupdate, hc'⟩ := update_with_cache r c id d
      exact ⟨c', by simp only [answer, hupdate], hc'⟩
  | delete id =>
    obtain ⟨c', hdelete, hc'⟩ := delete_with_cache r c id
    exact ⟨c', by simp only [perform, answer, hdelete], hc'⟩
  | check data changes excluded =>
    simp only [perform, conflict]
    split
    · exact ⟨c, rfl, hsame⟩
    · split <;> exact ⟨c, rfl, hsame⟩
  | getRow id =>
    simp only [perform]
    cases checkId id <;> exact ⟨c, rfl, hsame⟩
  | searchRows data =>
    simp only [perform]
    cases request data <;> exact ⟨c, rfl, hsame⟩
  | contains | isUsed | lifetimes | dump => exact ⟨c, rfl, hsame⟩
  | get id => exact absurd rfl (hget id)
  | search data => exact absurd rfl (hsearch data)
  | continents => exact absurd rfl hcontinents
  | invalidate family => exact absurd rfl (hinvalidate family)
  | createRow | replaceRow | removeRow | addCode => cases hs

end

/-- **One event**: the registry without a cache tells the same, and remains the same registry. -/
theorem told_beside_bare {r : Registry} {c : Cache Reading} (hc : Bare c) (hf : r.Fresh)
    (hk : r.lifetimes.HaveEnds r.clock) {e : Event} (hs : e.IsService) :
    { r with cache := c }.told e = r.told e ∧
      ∃ c', Bare c' ∧ { r with cache := c }.after e = { r.after e with cache := c' } := by
  cases e with
  | sweep => exact ⟨rfl, _, bare_sweep hc r.clock, rfl⟩
  | operation op =>
    by_cases hget : ∃ id, op = .get id
    · obtain ⟨id, rfl⟩ := hget
      have hr := read_beside_bare hc hf hk (q := .country id) trivial
      simp only [told, after, perform, answer, country, hr, true_and]
      exact ⟨c, hc, rfl⟩
    by_cases hsearch : ∃ data, op = .search data
    · obtain ⟨data, rfl⟩ := hsearch
      simp only [told, after, perform]
      cases hq : request data with
      | error failure => exact ⟨rfl, c, hc, rfl⟩
      | ok request =>
        have hr := read_beside_bare hc hf hk (q := .search request) (normal_of_request hq)
        simp only [answer, search, hr, true_and]
        exact ⟨c, hc, rfl⟩
    by_cases hcontinents : op = .continents
    · subst hcontinents
      have hr := read_beside_bare hc hf hk (q := .continents) trivial
      simp only [told, after, perform, answer, continents, hr, true_and]
      exact ⟨c, hc, rfl⟩
    by_cases hinvalidate : ∃ family, op = .invalidate family
    · obtain ⟨family, rfl⟩ := hinvalidate
      exact ⟨rfl, _, bare_invalidate hc r.clock family, rfl⟩
    obtain ⟨c', hp, hc'⟩ := perform_with_cache r c hs (fun id h => hget ⟨id, h⟩)
      (fun data h => hsearch ⟨data, h⟩) hcontinents (fun family h => hinvalidate ⟨family, h⟩)
    have htold : ∀ r : Registry, r.told (.operation op) = some (r.perform op).1 := by
      intro r
      unfold told
      split
      · next h => cases h; exact absurd ⟨_, rfl⟩ hinvalidate
      · next h => cases h; rfl
      · next h => cases h
    rw [htold, htold, after, after, hp]
    exact ⟨rfl, c', bare_of_unread hc' hc, rfl⟩

theorem story_beside_bare {r : Registry} {c : Cache Reading} (hc : Bare c) (hf : r.Fresh)
    {events : List Event} (hs : ∀ e ∈ events, e.IsService)
    (ht : Timely r.lifetimes r.clock events) :
    r.story events = { r with cache := c }.story events := by
  induction events generalizing r c with
  | nil => rfl
  | cons e events ih =>
    obtain ⟨hends, hforward, hrest⟩ := ht
    have he : e.IsService := hs e (by simp)
    obtain ⟨htold, c', hc', hafter⟩ := told_beside_bare hc hf hends he
    obtain ⟨hclock, hlifetimes⟩ := after_frame r he
    rw [← hclock, ← hlifetimes] at hrest
    simp only [story, htold, hafter]
    rw [ih hc' (fresh_after hf he hforward) (fun e h => hs e (by simp [h])) hrest]

/-- **A registry with a cache tells the same story as one without.**  It does not matter how large
the cache is, how long readings are kept and at what time the story begins. -/
theorem story_cached_eq_uncached (capacity : Nat) (clock : Quantity) (lifetimes : Lifetimes)
    {events : List Event} (hs : ∀ e ∈ events, e.IsService) (ht : Timely lifetimes clock events) :
    story ⟨.empty, .empty capacity true, clock, lifetimes⟩ events =
      story ⟨.empty, .empty capacity false, clock, lifetimes⟩ events := by
  refine story_beside_bare (c := .empty capacity false) ⟨rfl, rfl⟩ ?_ hs ht
  intro e he
  cases he

/-- A country that is created, asked for twice with an hour between, refused a second time, deleted
and asked for once more. -/
def oneHour : List Event :=
  let france : Json := .object [("name", .text "France"), ("continent", .text "Europe"),
    ("countryCode", .text "33"), ("iso2", .text "fr"), ("iso3", .text "fra")]
  [.operation (.create france {}), .operation (.get 1), .operation (.advance (.whole 3600)), .sweep,
    .operation (.get 1), .operation (.create france {}), .operation (.invalidate "country:id"),
    .operation (.delete 1), .operation (.get 1)]

theorem story_oneHour :
    (∀ e ∈ oneHour, e.IsService) ∧ Timely ⟨3600, 600⟩ 0 oneHour ∧
      story ⟨.empty, .empty 1 true, 0, ⟨3600, 600⟩⟩ oneHour =
        story ⟨.empty, .empty 1 false, 0, ⟨3600, 600⟩⟩ oneHour := by
  have hs : ∀ e ∈ oneHour, e.IsService := by simp [oneHour, Event.IsService, Operation.isService]
  have ht : Timely ⟨3600, 600⟩ 0 oneHour := by
    refine timely_of_whole _ fun seconds h => ⟨3600, ?_⟩
    simpa [oneHour] using h
  exact ⟨hs, ht, story_cached_eq_uncached 1 0 ⟨3600, 600⟩ hs ht⟩

end Registry

end Gazetteer
