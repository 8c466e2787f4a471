import Gazetteer.Proofs.Cache.Entries
import Gazetteer.Proofs.Registry.Key
import Gazetteer.Proofs.Store.Session
import Gazetteer.Registry.Operation

/-!
# What an operation does to a registry

While time stands still, an operation of the service changes a registry in one of four ways,
`Change`: not at all, by a reading that is kept, by an invalidation, or by a write, which is an
invalidation too.  Work behind the registry's back changes the tables and nothing else.

* `create_eq`, `update_eq`, `delete_eq`: the writes, each as a whole;
* `create_cases`, `update_cases`, `delete_cases`: what they come to;
* `of_hit`, `mem_read`: what a reading finds, and the entries after it;
* `perform_advance`, `change_perform`, `perform_of_not_isService`: the operations;
* `Reachable`: the registries that operations lead to.
-/

namespace Gazetteer

/-- Whether an operation goes through the registry, or else works on the tables behind its back. -/
def Operation.isService : Operation → Bool
  | .createRow .. | .replaceRow .. | .removeRow .. | .addCode .. => false
  | _ => true

/-- A write that goes through the registry. -/
def Operation.isWrite : Operation → Bool
  | .create .. | .update .. | .delete .. => true
  | _ => false

/-- What the clock shows after some seconds, if they can be added to it. -/
def Clock.after (clock seconds : Number.Quantity) : Number.Quantity :=
  match Clock.advance clock seconds with
  | .ok clock => clock
  | .error _ => clock

namespace Registry

open Number Store

/-! ## Writes as a whole -/

theorem create_eq (r : Registry) (d : Country.Draft) : r.create d = match r.now with
    | .error fault => (.error fault, r)
    | .ok now => match r.store.create now (columns d.fields) with
      | .error fault => (.error (.refused fault), r)
      | .ok (row, t) => (.ok (t.detail row), r.wrote t) := by
  unfold create conduct
  cases r.now with
  | error fault => rfl
  | ok now =>
    simp only [conduct_undone, conduct_create]
    cases r.store.create now (columns d.fields) <;> rfl

theorem update_eq (r : Registry) (id : Int) (d : Country.Draft) :
    r.update id d = match r.contains id with
    | .error fault => (.error fault, r)
    | .ok false => (.ok none, r)
    | .ok true => match r.now with
      | .error fault => (.error fault, r)
      | .ok now => match r.store.replace now id (columns d.fields) with
        | .error fault => (.error (.refused fault), r)
        | .ok none => (.ok none, r)
        | .ok (some (row, t)) => (.ok (some (t.detail row)), r.wrote t) := by
  unfold update conductOn conduct
  cases r.contains id with
  | error fault => rfl
  | ok exists' =>
    cases exists' with
    | false => rfl
    | true =>
      cases r.now with
      | error fault => rfl
      | ok now =>
        simp only [conduct_undone, conduct_replace]
        rcases r.store.replace now id (columns d.fields) with _ | (_ | _) <;> rfl

theorem delete_eq (r : Registry) (id : Int) : r.delete id = match r.store.remove id with
    | .error fault => (.error (.refused fault), r)
    | .ok none => (.ok false, r)
    | .ok (some t) => (.ok true, r.wrote t) := by
  unfold delete
  rw [conduct_undone, conduct_remove]
  rcases r.store.remove id with _ | (_ | _) <;> rfl

/-- **A new country is written, or nothing is done.** -/
theorem create_cases (r : Registry) (d : Country.Draft) :
    (∃ now row t, r.now = .ok now ∧ r.store.create now (columns d.fields) = .ok (row, t) ∧
      r.create d = (.ok (t.detail row), r.wrote t)) ∨
    ∃ fault, r.create d = (.error fault, r) := by
  rw [create_eq]
  cases hnow : r.now with
  | error fault => exact Or.inr ⟨_, rfl⟩
  | ok now =>
    dsimp only
    cases hs : r.store.create now (columns d.fields) with
    | error fault => exact Or.inr ⟨_, rfl⟩
    | ok x => exact Or.inl ⟨now, x.1, x.2, rfl, hs, rfl⟩

/-- **So are new values for a country.** -/
theorem update_cases (r : Registry) (id : Int) (d : Country.Draft) :
    (∃ now row t, r.now = .ok now ∧
      r.store.replace now id (columns d.fields) = .ok (some (row, t)) ∧
      r.update id d = (.ok (some (t.detail row)), r.wrote t)) ∨
    ∃ x, r.update id d = (x, r) ∧ ∀ detail, x ≠ .ok (some detail) := by
  rw [update_eq]
  rcases r.contains id with fault | (_ | _)
  · exact Or.inr ⟨_, rfl, nofun⟩
  · exact Or.inr ⟨_, rfl, nofun⟩
  · cases hnow : r.now with
    | error fault => exact Or.inr ⟨_, rfl, nofun⟩
    | ok now =>
      dsimp only
      rcases hs : r.store.replace now id (columns d.fields) with fault | (_ | ⟨row, t⟩)
      · exact Or.inr ⟨_, rfl, nofun⟩
      · exact Or.inr ⟨_, rfl, nofun⟩
      · exact Or.inl ⟨now, row, t, rfl, hs, rfl⟩

/-- **A country is deleted, or nothing is done.** -/
theorem delete_cases (r : Registry) (id : Int) :
    (∃ t, r.store.remove id = .ok (some t) ∧ r.delete id = (.ok true, r.wrote t)) ∨
    ∃ x, r.delete id = (x, r) ∧ x ≠ .ok true := by
  rw [delete_eq]
  rcases hs : r.store.remove id with fault | (_ | t)
  · exact Or.inr ⟨_, rfl, nofun⟩
  · exact Or.inr ⟨_, rfl, nofun⟩
  · exact Or.inl ⟨t, rfl, rfl⟩

/-! ## Readings -/

/-- How long the answer of a query is kept. -/
def lifetime (r : Registry) (q : Query) : Lifetime := .seconds (.whole (q.lifetime r.lifetimes))

/-- The cache after a query was looked up in it. -/
def lookedUp (r : Registry) (q : Query) : Cache Reading := (r.cache.get r.clock q.key).2

/-- **What a reading comes to**: its answer and the registry after it. -/
inductive ReadsTo (r : Registry) (q : Query) :
    Except Fault (Option Reading) × Registry → Prop
  | hit (reading : Reading) (hg : (r.cache.get r.clock q.key).1 = some reading) :
      ReadsTo r q (.ok (some reading), { r with cache := r.lookedUp q })
  | refused (fault : Store.Fault) (hg : (r.cache.get r.clock q.key).1 = none)
      (hl : q.load r.store = .error fault) :
      ReadsTo r q (.error (.refused fault), { r with cache := r.lookedUp q })
  | absent (hg : (r.cache.get r.clock q.key).1 = none) (hl : q.load r.store = .ok none) :
      ReadsTo r q (.ok none, { r with cache := r.lookedUp q })
  | kept (reading : Reading) (c : Cache Reading) (hg : (r.cache.get r.clock q.key).1 = none)
      (hl : q.load r.store = .ok (some reading))
      (hc : (r.lookedUp q).setIfCurrent r.clock (r.lookedUp q).generation q.key reading
        (r.lifetime q) (.units reading.cost) = .ok c) :
      ReadsTo r q (.ok (some reading), { r with cache := c })
  | uncached (reading : Reading) (fault : CacheFault)
      (hg : (r.cache.get r.clock q.key).1 = none) (hl : q.load r.store = .ok (some reading))
      (hc : (r.lookedUp q).setIfCurrent r.clock (r.lookedUp q).generation q.key reading
        (r.lifetime q) (.units reading.cost) = .error fault) :
      ReadsTo r q (.error (.uncached fault), { r with cache := r.lookedUp q })

theorem readsTo (r : Registry) (q : Query) : ReadsTo r q (r.read q) := by
  obtain ⟨found, c, hg⟩ : ∃ found c, r.cache.get r.clock q.key = (found, c) := ⟨_, _, rfl⟩
  have hfound : (r.cache.get r.clock q.key).1 = found := by rw [hg]
  obtain rfl : r.lookedUp q = c := by rw [lookedUp, hg]
  unfold read
  rw [hg]
  cases found with
  | some reading => exact .hit reading hfound
  | none =>
    dsimp only
    rcases hl : q.load r.store with fault | (_ | reading)
    · exact .refused fault hfound hl
    · exact .absent hfound hl
    · dsimp only [keep]
      split
      · next c hc => exact .kept reading c hfound hl hc
      · next fault hc => exact .uncached reading fault hfound hl hc

/-- **What is found is filed under the query**: if every live reading of the family is filed under a
query to which it stands in a certain relation, then so does what a query finds. -/
theorem of_hit {P : Query → Reading → Prop} {r : Registry} {q : Query} {reading : Reading}
    (h : ∀ e ∈ r.cache.entries, e.isLive r.clock → Cache.isUnder Key.family e.key →
      ∃ q reading, q.Normal ∧ e.key = q.key ∧ e.value = some reading ∧ P q reading)
    (hq : q.Normal) (hg : (r.cache.get r.clock q.key).1 = some reading) : P q reading := by
  cases hf : r.cache.find? r.clock q.key with
  | none =>
    rw [Cache.get_of_find?_eq_none hf] at hg
    cases hg
  | some e =>
    rw [Cache.get_of_find?_eq_some hf] at hg
    obtain ⟨hmem, hlive, hkey⟩ := Cache.find?_eq_some hf
    obtain ⟨q', reading', hq', hkey', hvalue, hp⟩ := h e hmem hlive (hkey ▸ q.isUnder_key)
    obtain rfl : q = q' := Query.key_injective hq hq' (hkey.symm.trans hkey')
    obtain rfl : reading' = reading := Option.some.inj (hvalue.symm.trans hg)
    exact hp

/-- A reading changes nothing but the cache. -/
theorem read_frame (r : Registry) (q : Query) : ∃ c, (r.read q).2 = { r with cache := c } := by
  have hr := readsTo r q
  generalize r.read q = x at hr
  cases hr <;> exact ⟨_, rfl⟩

/-- **A reading makes one entry at most**, which holds what the tables answer. -/
theorem mem_read {r : Registry} {q : Query} {e : CacheEntry Reading}
    (h : e ∈ (r.read q).2.cache.entries) : e ∈ r.cache.entries ∨
      ∃ reading, q.load r.store = .ok (some reading) ∧ e.key = q.key ∧ e.value = some reading ∧
        (r.lifetime q).expiry r.clock = .ok e.expiry ∧ e.cost = reading.cost := by
  have hr := readsTo r q
  generalize r.read q = x at h hr
  cases hr with
  | hit | refused | absent | uncached => exact Or.inl (Cache.mem_of_mem_get h)
  | kept reading c hg hl hc =>
    rcases Cache.mem_or_of_mem_setIfCurrent hc h with h | ⟨-, hkey, hvalue, hexpiry, hcost⟩
    · exact Or.inl (Cache.mem_of_mem_get h)
    · simp only [Cost.units.injEq, Int.natCast_inj] at hcost
      exact Or.inr ⟨reading, hl, hkey, hvalue, hexpiry, hcost.symm⟩

/-! ## Operations -/

/-- **A change of a registry** while time stands still. -/
inductive Change (r : Registry) : Registry → Prop
  | nothing : Change r r
  | reading (q : Query) (hq : q.Normal) : Change r (r.read q).2
  | forgetting (family : String) : Change r (r.invalidate family).2
  | writing (store : Store) : Change r (r.wrote store)

theorem change_create (r : Registry) (d : Country.Draft) : r.Change (r.create d).2 := by
  rcases r.create_cases d with ⟨now, row, t, -, -, hr⟩ | ⟨fault, hr⟩
  · rw [hr]
    exact .writing t
  · rw [hr]
    exact .nothing

theorem change_update (r : Registry) (id : Int) (d : Country.Draft) :
    r.Change (r.update id d).2 := by
  rcases r.update_cases id d with ⟨now, row, t, -, -, hr⟩ | ⟨x, hr, -⟩
  · rw [hr]
    exact .writing t
  · rw [hr]
    exact .nothing

theorem change_delete (r : Registry) (id : Int) : r.Change (r.delete id).2 := by
  rcases r.delete_cases id with ⟨t, -, hr⟩ | ⟨x, hr, -⟩
  · rw [hr]
    exact .writing t
  · rw [hr]
    exact .nothing

theorem normal_of_request {data : Json} {request : Search.Request}
    (h : Registry.request data = .ok request) : request.Normal := by
  unfold Registry.request at h
  cases hr : Search.Request.read data with
  | ok r =>
    rw [hr] at h
    cases h
    exact Search.Request.normal_of_read hr
  | faulty issues =>
    rw [hr] at h
    cases h

theorem perform_advance (r : Registry) (seconds : Quantity) :
    (r.perform (.advance seconds)).2 = { r with clock := Clock.after r.clock seconds } := by
  simp only [perform, advance, Clock.after]
  cases Clock.advance r.clock seconds <;> rfl

/-- **An operation of the service is one of these changes**, unless time passes. -/
theorem change_perform (r : Registry) {op : Operation} (h : op.isService)
    (ht : ∀ seconds, op ≠ .advance seconds) : r.Change (r.perform op).2 := by
  cases op with
  | advance seconds => exact absurd rfl (ht seconds)
  | create data changes =>
    simp only [perform]
    cases draft .creation data changes with
    | error failure => exact .nothing
    | ok d => exact change_create r d
  | update id data changes =>
    simp only [perform]
    cases draft .replacement data changes with
    | error failure => exact .nothing
    | ok d => exact change_update r id d
  | delete id => exact change_delete r id
  | get id => exact .reading (.country id) trivial
  | search data =>
    simp only [perform]
    cases hr : Registry.request data with
    | error failure => exact .nothing
    | ok request => exact .reading (.search request) (normal_of_request hr)
  | continents => exact .reading .continents trivial
  | check data changes excluded =>
    simp only [perform]
    split
    · exact .nothing
    · split <;> exact .nothing
  | getRow id =>
    simp only [perform]
    cases checkId id <;> exact .nothing
  | searchRows data =>
    simp only [perform]
    cases Registry.request data <;> exact .nothing
  | invalidate family => exact .forgetting family
  | contains | isUsed | lifetimes | dump => exact .nothing
  | createRow | replaceRow | removeRow | addCode => cases h

/-- **Work behind the registry's back changes the tables only.** -/
theorem perform_of_not_isService (r : Registry) {op : Operation} (h : op.isService = false) :
    ∃ store, (r.perform op).2 = { r with store } := by
  cases op with
  | createRow columns commits =>
    simp only [perform]
    split <;> exact ⟨_, rfl⟩
  | replaceRow id columns commits =>
    simp only [perform]
    split <;> exact ⟨_, rfl⟩
  | removeRow id commits =>
    simp only [perform]
    split <;> exact ⟨_, rfl⟩
  | addCode countryId code isPrimary =>
    simp only [perform]
    split <;> exact ⟨_, rfl⟩
  | _ => cases h

theorem Change.frame {r r' : Registry} (h : r.Change r') :
    r'.clock = r.clock ∧ r'.lifetimes = r.lifetimes := by
  cases h with
  | nothing | forgetting | writing => exact ⟨rfl, rfl⟩
  | reading q hq =>
    obtain ⟨c, hr⟩ := read_frame r q
    rw [hr]
    exact ⟨rfl, rfl⟩

/-- **The registries that operations lead to**, from one without countries; between two operations
dead readings may be swept out of the cache. -/
inductive Reachable : Registry → Prop
  | empty (capacity : Nat) (retains : Bool) (clock : Quantity) (lifetimes : Lifetimes) :
      Reachable ⟨.empty, .empty capacity retains, clock, lifetimes⟩
  | perform {r : Registry} (op : Operation) : Reachable r → Reachable (r.perform op).2
  | sweep {r : Registry} : Reachable r → Reachable r.sweep

end Registry

end Gazetteer
