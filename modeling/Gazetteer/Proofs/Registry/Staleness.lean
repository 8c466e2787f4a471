import Gazetteer.Proofs.Registry.Atomicity
import Gazetteer.Proofs.Registry.Course
import Gazetteer.Proofs.Time.Sums
import Mathlib.Data.List.Induction

/-!
# Readings out of date

Work behind the registry's back changes the tables, but not the cache, so that what is found there
may be out of date.  It is never older than its lifetime, though: at the time at which its lifetime
began, it was what the tables answered, and nothing that forgets readings has happened since.

* `Operation.query?`, `perform_of_query`: the operations that read, and what they tell;
* `Disturbs`, `Undisturbed`: what forgets the readings under a key; `not_live_of_disturbs`;
* `Source`, `Dated`, `dated_afterAll`: every live reading has a source; `source_of_hit`;
* `Within`, `within_of_expiry`: the time that a lifetime takes;
* `told_within`: what is told is no older than its lifetime; `told_late`: the lifetime is not exact.
-/

namespace Gazetteer

open Number Store

/-! ## Operations that read -/

/-- The query that an operation looks up in the cache. -/
def Operation.query? : Operation → Option Query
  | .get id => some (.country id)
  | .search data => (Registry.request data).toOption.map .search
  | .continents => some .continents
  | _ => none

/-- A lifetime ends at the sum of the clock and the seconds. -/
theorem Lifetime.expiry_eq_ok {clock seconds expiry : Quantity} :
    Lifetime.expiry clock (.seconds seconds) = .ok expiry ↔ clock.add? seconds = some expiry := by
  simp only [Lifetime.expiry, Clock.advance]
  cases clock.add? seconds <;> simp [Except.mapError]

namespace Registry

variable {r start : Registry} {op : Operation} {q : Query} {key : String}

/-- The registry with a cache that keeps nothing. -/
def uncached (r : Registry) : Registry := { r with cache := .empty 0 false }

/-- **An operation that reads tells what its query answers.** -/
theorem perform_of_query (h : op.query? = some q) : q.Normal ∧ ∃ f : Option Reading → Answer,
    ∀ r : Registry, (r.perform op).1 = ((r.read q).1.map f).mapError .faulty := by
  have hmap : ∀ {α : Type} (part : Reading → Option α) (f : Option α → Answer)
      (x : Except Fault (Option Reading)),
      ((x.map (·.bind part)).map f).mapError Failure.faulty =
        (x.map fun o => f (o.bind part)).mapError Failure.faulty := by
    rintro α part f (_ | _) <;> rfl
  cases op with
  | get id =>
    cases h
    exact ⟨trivial, _, fun r => hmap Reading.detail? .detail _⟩
  | search data =>
    obtain ⟨request, hr, rfl⟩ := Option.map_eq_some_iff.mp h
    obtain hr : Registry.request data = .ok request := by
      cases hd : Registry.request data with
      | error failure => rw [hd] at hr; cases hr
      | ok _ => rw [hd] at hr; cases hr; rfl
    refine ⟨normal_of_request hr, fun o => .page (o.bind Reading.page?), fun r => ?_⟩
    simp only [perform, hr]
    exact hmap Reading.page? .page _
  | continents =>
    cases h
    exact ⟨trivial, _, fun r => hmap Reading.continents? .names _⟩
  | _ => cases h

theorem read_uncached (r : Registry) (q : Query) :
    (r.uncached.read q).1 = (q.load r.store).mapError .refused := by
  rw [read_of_bare ⟨rfl, rfl⟩]
  rfl

/-- **An answer comes from the tables**, unless it is a reading in the cache. -/
theorem load_or_hit {o : Option Reading} (h : (r.read q).1 = .ok o) :
    q.load r.store = .ok o ∨
      ∃ reading, o = some reading ∧ (r.cache.get r.clock q.key).1 = some reading := by
  have hr := readsTo r q
  generalize r.read q = x at h hr
  cases hr with
  | hit reading hg => exact Or.inr ⟨reading, (Except.ok.inj h).symm, hg⟩
  | absent hg hl => exact Or.inl (Except.ok.inj h ▸ hl)
  | kept reading c hg hl hc => exact Or.inl (Except.ok.inj h ▸ hl)
  | refused | uncached => cases h

/-! ## Disturbances -/

/-- **An event that forgets the readings under a key**: a write that does something, or an
invalidation of a family to which the key belongs. -/
def Disturbs (r : Registry) (key : String) : Event → Prop
  | .operation (.invalidate family) => Cache.isUnder family key
  | .operation op => op.isWrite ∧ ¬FallsShort (r.perform op).1
  | .sweep => False

/-- **Nothing forgets the readings under a key** in a row of events. -/
def Undisturbed (key : String) (r : Registry) : List Event → Prop
  | [] => True
  | e :: es => ¬r.Disturbs key e ∧ Undisturbed key (r.after e) es

theorem undisturbed_concat {es : List Event} {e : Event} : r.Undisturbed key (es ++ [e]) ↔
    r.Undisturbed key es ∧ ¬(r.afterAll es).Disturbs key e := by
  induction es generalizing r with
  | nil => simp [Undisturbed, afterAll]
  | cons e' es ih => simp [Undisturbed, afterAll, ih, and_assoc]

/-- A write that does something forgets all readings. -/
theorem wrote_of_isWrite (hw : op.isWrite) (h : ¬FallsShort (r.perform op).1) :
    ∃ store, (r.perform op).2 = r.wrote store := by
  cases op with
  | create data changes =>
    simp only [perform] at h ⊢
    cases hd : draft .creation data changes with
    | error failure =>
      rw [hd] at h
      exact absurd (fallsShort_error failure) h
    | ok d =>
      rw [hd] at h
      rcases r.create_cases d with ⟨_, _, t, -, -, hr⟩ | ⟨fault, hr⟩
      · exact ⟨t, by simp only [answer, hr]⟩
      · rw [fallsShort_answer, hr] at h
        exact absurd (fun _ ha => by cases ha) h
  | update id data changes =>
    simp only [perform] at h ⊢
    cases hd : draft .replacement data changes with
    | error failure =>
      rw [hd] at h
      exact absurd (fallsShort_error failure) h
    | ok d =>
      rw [hd] at h
      rcases r.update_cases id d with ⟨_, _, t, -, -, hr⟩ | ⟨x, hr, hx⟩
      · exact ⟨t, by simp only [answer, hr]⟩
      · rw [fallsShort_answer, hr] at h
        refine absurd (fun o ho => ?_) h
        cases o with
        | none => rfl
        | some detail => exact absurd ho (hx detail)
  | delete id =>
    simp only [perform] at h ⊢
    rcases r.delete_cases id with ⟨t, -, hr⟩ | ⟨x, hr, hx⟩
    · exact ⟨t, by simp only [answer, hr]⟩
    · rw [fallsShort_answer, hr] at h
      refine absurd (fun b hb => ?_) h
      cases b with
      | false => rfl
      | true => exact absurd hb hx
  | _ => cases hw

/-- **After a disturbance nothing under the key is live.** -/
theorem not_live_of_disturbs {e : Event} (h : r.Disturbs key e) (hk : Cache.isUnder Key.family key)
    {entry : CacheEntry Reading} (he : entry ∈ (r.after e).cache.entries) (hkey : entry.key = key) :
    ¬entry.isLive (r.after e).clock := by
  subst hkey
  cases e with
  | sweep => cases h
  | operation op =>
    unfold Disturbs at h
    split at h
    · next family ho =>
      cases ho
      exact fun hl => (Cache.mem_invalidate.mp he).2 ⟨h, hl⟩
    · next op' _ ho =>
      cases ho
      obtain ⟨store, hs⟩ := wrote_of_isWrite h.1 h.2
      rw [after, hs] at he ⊢
      exact fun hl => (Cache.mem_invalidate.mp he).2 ⟨hk, hl⟩
    · next ho => cases ho

/-! ## Sources -/

/-- **A reading has its source** at a point of a course: there the tables answer the query with it,
and nothing forgets the readings under its key afterwards. -/
structure Source (start : Registry) (events before since : List Event) (q : Query)
    (reading : Reading) : Prop where
  events_eq : events = before ++ since
  load_eq : q.load (start.afterAll before).store = .ok (some reading)
  undisturbed : (start.afterAll before).Undisturbed q.key since

section
variable {events before since : List Event} {reading : Reading} {e : Event}

theorem source_now (h : q.load (start.afterAll events).store = .ok (some reading)) :
    start.Source events events [] q reading :=
  ⟨(List.append_nil events).symm, h, trivial⟩

theorem Source.concat (h : start.Source events before since q reading)
    (he : ¬(start.afterAll events).Disturbs q.key e) :
    start.Source (events ++ [e]) before (since ++ [e]) q reading := by
  obtain ⟨rfl, hload, hquiet⟩ := h
  rw [afterAll_append] at he
  exact ⟨List.append_assoc .., hload, undisturbed_concat.mpr ⟨hquiet, he⟩⟩

/-- **Every live reading has a source**, and its lifetime is counted from there. -/
def Dated (start : Registry) (events : List Event) : Prop :=
  ∀ e ∈ (start.afterAll events).cache.entries, e.isLive (start.afterAll events).clock →
    ∃ q reading, q.Normal ∧ e.key = q.key ∧ e.value = some reading ∧
      ∃ before since, start.Source events before since q reading ∧
        (start.lifetime q).expiry (start.afterAll before).clock = .ok e.expiry

/-- One event more: what is live after it was so before it, or has been read from the tables that
were there before it. -/
theorem dated_concat (h : start.Dated events)
    (ht : (start.afterAll events).clock.Le (e.clockAfter (start.afterAll events).clock)) :
    start.Dated (events ++ [e]) := by
  intro entry he hl
  rw [afterAll_concat] at he hl
  obtain ⟨q, reading, hq, hkey, hvalue, before, since, hsource, hexpiry⟩ : ∃ q reading,
      q.Normal ∧ entry.key = q.key ∧ entry.value = some reading ∧ ∃ before since,
        start.Source events before since q reading ∧
          (start.lifetime q).expiry (start.afterAll before).clock = .ok entry.expiry := by
    rcases mem_after he with hold | ⟨q, reading, hq, hload, hkey, hvalue, hexpiry, -⟩
    · rw [(clock_after _ e).1] at hl
      exact h entry hold (Cache.isLive_of_le ht hl)
    · rw [lifetime, lifetimes_afterAll] at hexpiry
      exact ⟨q, reading, hq, hkey, hvalue, events, [], source_now hload, hexpiry⟩
  have hquiet : ¬(start.afterAll events).Disturbs q.key e := fun hd =>
    not_live_of_disturbs hd q.isUnder_key he hkey hl
  exact ⟨q, reading, hq, hkey, hvalue, before, since ++ [e], hsource.concat hquiet, hexpiry⟩

/-- **So it is in every course** that begins with an empty cache. -/
theorem dated_afterAll (hempty : start.cache.entries = []) (hf : Forward start.clock events) :
    start.Dated events := by
  induction events using List.reverseRecOn with
  | nil =>
    intro e he
    rw [afterAll, hempty] at he
    cases he
  | append_singleton events e ih =>
    obtain ⟨hbefore, hle⟩ := forward_concat.mp hf
    exact dated_concat (ih hbefore) hle

/-- **What a query finds has a source**, and its lifetime from there is not over. -/
theorem source_of_hit (hempty : start.cache.entries = []) (hf : Forward start.clock events)
    (hq : q.Normal)
    (hg : ((start.afterAll events).cache.get (start.afterAll events).clock q.key).1 =
      some reading) :
    ∃ before since, start.Source events before since q reading ∧
      ∃ expiry, (start.lifetime q).expiry (start.afterAll before).clock = .ok expiry ∧
        (start.afterAll events).clock.lt expiry := by
  refine of_hit (P := fun q reading => ∃ before since, start.Source events before since q reading ∧
    ∃ expiry, (start.lifetime q).expiry (start.afterAll before).clock = .ok expiry ∧
      (start.afterAll events).clock.lt expiry) (fun e he hl _ => ?_) hq hg
  obtain ⟨q, reading, hq, hkey, hvalue, before, since, hsource, hexpiry⟩ :=
    dated_afterAll hempty hf e he hl
  exact ⟨q, reading, hq, hkey, hvalue, before, since, hsource, e.expiry, hexpiry, hl⟩

end

/-! ## Lifetimes -/

/-- **A time lies within some seconds** from an earlier one: before the sum that the clock makes of
them, and before the exact sum as well if they are not rounded. -/
structure Within (earlier later : Quantity) (seconds : Int) : Prop where
  le : earlier.Le later
  lt_sum : ∃ sum, earlier.add? (.whole seconds) = some sum ∧ later.lt sum
  lt_exact : (earlier.isReal → Binary64.nearest seconds = seconds) →
    later.level < earlier.level + (Quantity.whole seconds).level

/-- **What is live at a point is within its lifetime there.** -/
theorem within_of_expiry {before since : List Event} {seconds : Int} {expiry : Quantity}
    (hsettled : start.clock.IsSettled) (hf : Forward start.clock (before ++ since))
    (hx : Lifetime.expiry (start.afterAll before).clock (.seconds (.whole seconds)) = .ok expiry)
    (hl : (start.afterAll (before ++ since)).clock.lt expiry) :
    Within (start.afterAll before).clock (start.afterAll (before ++ since)).clock seconds := by
  have hsum := Lifetime.expiry_eq_ok.mp hx
  have hle : (start.afterAll before).clock.Le (start.afterAll (before ++ since)).clock := by
    rw [afterAll_append] at hl ⊢
    exact le_clock_afterAll (forward_append.mp hf).2 (Quantity.lt_iff.mp hl).1
  have hreal : (start.afterAll before).clock.isReal →
      (start.afterAll (before ++ since)).clock.isReal := by
    rw [afterAll_append]
    exact fun h => clock_afterAll_induction (fun _ _ _ h hs => Quantity.add?_real hs h) h since
  have hlater : (start.afterAll (before ++ since)).clock.IsSettled :=
    clock_afterAll_induction (fun _ _ _ _ hs => Quantity.isSettled_add? hs) hsettled _
  exact ⟨hle, ⟨expiry, hsum, hl⟩, Quantity.lt_end_of_lt hlater hle hreal hsum hl⟩

/-- Small numbers of seconds are not rounded. -/
theorem Within.lt_of_small {earlier later : Quantity} {seconds : Int}
    (h : Within earlier later seconds) (hs : seconds.natAbs ≤ 2 ^ 53) :
    later.level < earlier.level + (Quantity.whole seconds).level :=
  h.lt_exact fun _ => Binary64.nearest_intCast hs

/-! ## What is told -/

/-- **What is told is no older than its lifetime**: without a cache the same would have been told at
a point of the course since which nothing has forgotten it, and which is now, or less than a
lifetime ago. -/
theorem told_within {events : List Event} {a : Answer} (hempty : start.cache.entries = [])
    (hsettled : start.clock.IsSettled) (hf : Forward start.clock events)
    (hq : op.query? = some q) (ha : ((start.afterAll events).perform op).1 = .ok a) :
    ∃ before since, events = before ++ since ∧
      ((start.afterAll before).uncached.perform op).1 = .ok a ∧
      (start.afterAll before).Undisturbed q.key since ∧
      (since = [] ∨ Within (start.afterAll before).clock (start.afterAll events).clock
        (q.lifetime start.lifetimes)) := by
  obtain ⟨hnormal, f, hf'⟩ := perform_of_query hq
  obtain ⟨o, ho, rfl⟩ : ∃ o, ((start.afterAll events).read q).1 = .ok o ∧ f o = a := by
    rw [hf'] at ha
    cases hr : ((start.afterAll events).read q).1 with
    | error fault => rw [hr] at ha; cases ha
    | ok o => rw [hr] at ha; exact ⟨o, rfl, Except.ok.inj ha⟩
  have htold : ∀ {before o}, q.load (start.afterAll before).store = .ok o →
      ((start.afterAll before).uncached.perform op).1 = .ok (f o) := by
    intro before o hl
    rw [hf', read_uncached, hl]
    rfl
  rcases load_or_hit ho with hl | ⟨reading, rfl, hg⟩
  · exact ⟨events, [], (List.append_nil events).symm, htold hl, trivial, Or.inl rfl⟩
  · obtain ⟨before, since, ⟨rfl, hload, hquiet⟩, expiry, hx, hlt⟩ :=
      source_of_hit hempty hf hnormal hg
    exact ⟨before, since, rfl, htold hload, hquiet, Or.inr (within_of_expiry hsettled hf hx hlt)⟩

/-- A registry that keeps countries for some seconds. -/
def keeping (seconds : Int) : Registry := ⟨.empty, .empty 100 true, 0, ⟨seconds, 600⟩⟩

/-- Twelve seconds after zero there is a country, which is asked for and then renamed behind the
registry's back.  After that some time passes. -/
def outdated (waits : List Quantity) : List Event :=
  [.operation (.advance (.real (.ofRat 12))),
    .operation (.createRow ⟨some "France", some "Europe", some "FR", some "FRA", [some "33"]⟩ true),
    .operation (.get 1),
    .operation (.replaceRow 1 ⟨some "Germany", some "Europe", some "DE", some "DEU", [some "49"]⟩
      true)] ++ waits.map fun seconds => .operation (.advance seconds)

/-- The name of the country that is told. -/
def nameTold : Except Failure Answer → Option String
  | .ok (.detail (some d)) => some d.name
  | _ => none

theorem told_renamed :
    Forward 0 (outdated [59]) ∧ ∃ a before since,
      (((keeping 60).afterAll (outdated [59])).perform (.get 1)).1 = .ok a ∧
      nameTold (.ok a) = some "France" ∧ outdated [59] = before ++ since ∧
      (((keeping 60).afterAll before).uncached.perform (.get 1)).1 = .ok a ∧
      ((keeping 60).afterAll before).Undisturbed (Key.country 1) since ∧
      (since = [] ∨ ((keeping 60).afterAll (outdated [59])).clock.level <
        ((keeping 60).afterAll before).clock.level + (Quantity.whole 60).level) := by
  have hforward : Forward 0 (outdated [59]) := by decide +kernel
  have hname : nameTold (((keeping 60).afterAll (outdated [59])).perform (.get 1)).1 =
      some "France" := by decide +kernel
  cases ha : (((keeping 60).afterAll (outdated [59])).perform (.get 1)).1 with
  | error failure =>
    rw [ha] at hname
    cases hname
  | ok a =>
    rw [ha] at hname
    have hempty : (keeping 60).cache.entries = [] := rfl
    obtain ⟨before, since, heq, htold, hquiet, hwithin⟩ :=
      told_within hempty trivial hforward (q := .country 1) rfl ha
    exact ⟨hforward, a, before, since, rfl, hname, heq, htold, hquiet,
      hwithin.imp id fun h => h.lt_of_small (by decide)⟩

/-- More than a thousand million years, and no double: the nearest ones are four seconds away. -/
def unrounded : Int := 36028797018964140

/-- The time after which the clock shows the exact end of such a lifetime. -/
def waits : List Quantity := [4, 36028797018964136]

/-- **A rounded lifetime may be longer than it should be**: at its exact end the country is still
told by its old name, which it has not had for a lifetime. -/
theorem told_late :
    Forward 0 (outdated waits) ∧
    nameTold (((keeping unrounded).afterAll (outdated waits)).perform (.get 1)).1 =
      some "France" ∧
    ¬∃ before since, outdated waits = before ++ since ∧
      (((keeping unrounded).afterAll before).uncached.perform (.get 1)).1 =
        (((keeping unrounded).afterAll (outdated waits)).perform (.get 1)).1 ∧
      (since = [] ∨ ((keeping unrounded).afterAll (outdated waits)).clock.level <
        ((keeping unrounded).afterAll before).clock.level + (Quantity.whole unrounded).level) := by
  have hname : nameTold (((keeping unrounded).afterAll (outdated waits)).perform (.get 1)).1 =
      some "France" := by decide +kernel
  -- only at two points the country has its old name, and at both the clock shows twelve
  have hpoints : ∀ n < 7, nameTold (((keeping unrounded).afterAll
      ((outdated waits).take n)).uncached.perform (.get 1)).1 = some "France" →
        n < 6 ∧ ((keeping unrounded).afterAll ((outdated waits).take n)).clock =
          .real (.finite false 6755399441055744 (-49)) := by decide +kernel
  have hnow : ((keeping unrounded).afterAll (outdated waits)).clock =
      .real (.finite false 4503599627370519 3) := by decide +kernel
  refine ⟨by decide +kernel, hname, ?_⟩
  rintro ⟨before, since, heq, htold, hage⟩
  have hbefore : before = (outdated waits).take before.length := by rw [heq, List.take_left]
  have hlength : before.length + since.length = 6 := by
    rw [← List.length_append, ← heq]
    rfl
  obtain ⟨hlt, hclock⟩ := hpoints before.length (by omega) (by rw [← hbefore, htold, hname])
  rw [← hbefore] at hclock
  rcases hage with rfl | hage
  · simp at hlength
    omega
  · rw [hnow, hclock] at hage
    have hsum : (Quantity.real (.finite false 4503599627370519 3)).level =
        (Quantity.real (.finite false 6755399441055744 (-49))).level +
          (Quantity.whole unrounded).level := by
      have htwelve : (Binary64.finite false 6755399441055744 (-49)).toRat = 12 := by decide +kernel
      have hend : (Binary64.finite false 4503599627370519 3).toRat = 12 + (unrounded : ℚ) := by
        decide +kernel
      rw [Quantity.level_finite, Quantity.level_finite, htwelve, hend]
      rfl
    exact absurd hage (not_lt.mpr hsum.ge)

end Registry

end Gazetteer
