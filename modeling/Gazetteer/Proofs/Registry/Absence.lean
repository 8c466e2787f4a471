import Gazetteer.Proofs.Registry.Course
import Gazetteer.Proofs.Registry.Tables

/-!
# A country that is not there

Asking for a country that is not there, replacing it and deleting it fail at nothing: they tell that
there is no such country, and leave the tables and the cache as they are.  For the cache has no live
reading of it.  A reading is kept only of a country that is there, and as long as every country that
goes is removed by the service, its readings go with it.

A number of more than 64 bits is not looked for.  The tables refuse it, whichever of these is asked,
and so the registry fails.

* `Store.Retains`: the countries of a store are all in a later one;
* `Backed`, `backed_afterAll`: what is kept is kept of a country that is there;
* `MissesCountry`, `RefusesNumber`: the two ways in which a number is not found;
* `missesCountry_of_backed`, `refusesNumber_of_backed`: which of them it is.
-/

namespace Gazetteer

open Number Store

namespace Store

variable {s t : Store} {id : Int}

/-! ## Numbers that no country has -/

theorem contains_eq_true_iff :
    s.contains id = .ok true ↔ fits id ∧ ∃ c ∈ s.countries, c.id = id := by
  unfold contains
  by_cases hfits : fits id
  · rw [checkId_of_fits hfits, ok_bind]
    simp [hfits, country?]
  · rw [checkId_of_not_fits hfits, error_bind]
    simp [hfits]

section Absent

variable (hfits : fits id) (h : ∀ c ∈ s.countries, c.id ≠ id)
include hfits h

theorem contains_of_absent : s.contains id = .ok false := by
  unfold contains
  rw [checkId_of_fits hfits, ok_bind, country?_eq_none h]
  rfl

theorem remove_of_absent : s.remove id = .ok none := by
  unfold remove
  rw [checkId_of_fits hfits, ok_bind, country?_eq_none h]

theorem load_of_absent : (Query.country id).load s = .ok none := by
  unfold Query.load
  dsimp only
  rw [checkId_of_fits hfits, ok_bind, detail?, country?_eq_none h]
  rfl

end Absent

/-- A country of which there is something to read is there. -/
theorem contains_of_load {reading : Reading}
    (h : (Query.country id).load s = .ok (some reading)) : s.contains id = .ok true := by
  obtain ⟨_, hcheck, hload⟩ := bind_eq_ok_iff.mp h
  unfold contains
  rw [hcheck, ok_bind]
  cases hrow : s.country? id with
  | none =>
    rw [detail?, hrow] at hload
    cases hload
  | some row => rfl

/-! ## Writes that take no country away -/

/-- **Every country is still there**, whatever its values are now. -/
def Retains (s t : Store) : Prop := ∀ c ∈ s.countries, ∃ d ∈ t.countries, d.id = c.id

theorem retains_self (s : Store) : s.Retains s := fun c hc => ⟨c, hc, rfl⟩

theorem Retains.contains (h : s.Retains t) (hs : s.contains id = .ok true) :
    t.contains id = .ok true := by
  obtain ⟨hfits, c, hc, rfl⟩ := contains_eq_true_iff.mp hs
  exact contains_eq_true_iff.mpr ⟨hfits, h c hc⟩

section

variable {now : Instant} {c : Columns} {row : CountryRow}

theorem retains_of_create (hs : s.create now c = .ok (row, t)) : s.Retains t := by
  obtain ⟨f, rfl⟩ := exists_fields_of_create hs
  obtain ⟨-, -, rfl⟩ := create_columns_eq_ok hs
  exact fun c hc => ⟨c, List.mem_append_left _ hc, rfl⟩

theorem retains_of_replace (hs : s.replace now id c = .ok (some (row, t))) : s.Retains t := by
  obtain ⟨f, rfl⟩ := exists_fields_of_replace hs
  obtain ⟨old, -, hrow, -, n, rfl⟩ := replace_columns_eq_ok hs
  have hid : row.id = id := by rw [hrow]
  intro c hc
  refine ⟨_, List.mem_map_of_mem hc, ?_⟩
  split
  · next heq => exact hid.trans heq.symm
  · rfl

theorem retains_of_addCode {countryId : Option Int} {code : Option String} {isPrimary : Bool}
    {k : CodeRow} (hs : s.addCode now countryId code isPrimary = .ok (k, t)) : s.Retains t := by
  obtain ⟨rfl, -⟩ := addCode_eq_ok hs
  exact s.retains_self

end

end Store

/-! ## Countries that are removed -/

/-- **No country is removed behind the registry's back**, unless the removal is not saved. -/
def Event.RemovesOpenly : Event → Prop
  | .operation (.removeRow _ commits) => commits = false
  | _ => True

instance (e : Event) : Decidable e.RemovesOpenly := by
  unfold Event.RemovesOpenly
  split <;> infer_instance

namespace Registry

variable {r r' : Registry} {id : Int}

theorem retains_perform {op : Operation} (hs : op.isService = false)
    (hopen : Event.RemovesOpenly (.operation op)) : r.store.Retains (r.perform op).2.store := by
  have hself := r.store.retains_self
  cases op with
  | createRow columns commits =>
    rw [store_createRow]
    exact conduct_snd hself fun now => conduct_create_snd hself fun _ _ => retains_of_create
  | replaceRow id columns commits =>
    rw [store_replaceRow]
    exact conductOn_snd hself fun now => conduct_replace_snd hself fun _ _ => retains_of_replace
  | removeRow id commits =>
    obtain rfl : commits = false := hopen
    rw [store_removeRow]
    exact conduct_remove_snd hself nofun
  | addCode countryId code isPrimary =>
    rw [store_addCode]
    exact conduct_snd hself fun now => conduct_addCode_snd hself fun _ _ => retains_of_addCode
  | _ => cases hs

/-! ## What is kept of countries -/

/-- **Every live reading of a country is kept of one that is there.** -/
def Backed (r : Registry) : Prop :=
  ∀ e ∈ r.cache.entries, e.isLive r.clock → ∀ id, e.key = Key.country id →
    r.store.contains id = .ok true

theorem backed_change (h : r.Backed) (hc : r.Change r') : r'.Backed := by
  cases hc with
  | nothing => exact h
  | reading q hq =>
    intro e he hl id hkey
    obtain ⟨c, hr⟩ := read_frame r q
    rw [hr] at hl ⊢
    rcases mem_read he with he | ⟨reading, hload, hquery, -⟩
    · exact h e he hl id hkey
    · obtain rfl : q = .country id := Query.key_injective hq trivial (hquery.symm.trans hkey)
      exact contains_of_load hload
  | forgetting family => exact fun e he hl => h e (Cache.mem_invalidate.mp he).1 hl
  | writing store =>
    -- the readings of all countries are forgotten, so that there is none left to speak of
    intro e he hl id hkey
    obtain ⟨-, hnot⟩ := Cache.mem_invalidate.mp he
    exact absurd ⟨hkey ▸ (Query.country id).isUnder_key, hl⟩ hnot

theorem backed_sweep (h : r.Backed) : r.sweep.Backed :=
  fun e he hl => h e (Cache.mem_sweep.mp he).1 hl

theorem backed_time {clock : Quantity} (h : r.Backed) (ht : r.clock.Le clock) :
    { r with clock }.Backed :=
  fun e he hl => h e he (Cache.isLive_of_le ht hl)

/-- **One event**: a removal takes the readings of a country with it, and nothing else takes a
country away. -/
theorem backed_after {e : Event} (h : r.Backed) (hopen : e.RemovesOpenly)
    (ht : r.clock.Le (e.clockAfter r.clock)) : (r.after e).Backed := by
  cases e with
  | sweep => exact backed_sweep h
  | operation op =>
    rw [after]
    cases hs : op.isService with
    | true =>
      by_cases hadvance : ∃ seconds, op = .advance seconds
      · obtain ⟨seconds, rfl⟩ := hadvance
        rw [perform_advance]
        exact backed_time h ht
      · exact backed_change h (change_perform r hs fun seconds ho => hadvance ⟨seconds, ho⟩)
    | false =>
      have hretains := retains_perform (r := r) hs hopen
      obtain ⟨store, hp⟩ := perform_of_not_isService r hs
      rw [hp] at hretains ⊢
      exact fun e he hl id hkey => hretains.contains (h e he hl id hkey)

theorem backed_afterAll {es : List Event} (h : r.Backed) (hopen : ∀ e ∈ es, e.RemovesOpenly)
    (ht : Forward r.clock es) : (r.afterAll es).Backed := by
  induction es generalizing r with
  | nil => exact h
  | cons e es ih =>
    obtain ⟨hle, hrest⟩ := ht
    have he := hopen e List.mem_cons_self
    rw [← (r.clock_after e).1] at hrest
    exact ih (backed_after h he hle) (fun d hd => hopen d (List.mem_cons_of_mem e hd)) hrest

theorem backed_of_entries_eq_nil (h : r.cache.entries = []) : r.Backed := by
  intro e he
  rw [h] at he
  cases he

/-! ## Numbers that are not found -/

/-- **There is no country with a number**: everybody is told so, and nothing changes. -/
structure MissesCountry (r : Registry) (id : Int) : Prop where
  country : r.country id = (.ok none, r)
  contains : r.contains id = .ok false
  update : ∀ d, r.update id d = (.ok none, r)
  delete : r.delete id = (.ok false, r)

/-- **The tables refuse a number**: nobody is told whether there is such a country, and nothing
changes. -/
structure RefusesNumber (r : Registry) (id : Int) : Prop where
  /-- The refusal of the tables.  Where numbers of so many digits are not converted, it comes from
  the key already. -/
  country : r.country id = (.error (.refused .outOfRange), r)
  contains : r.contains id = .error (.refused .outOfRange)
  update : ∀ d, r.update id d = (.error (.refused .outOfRange), r)
  delete : r.delete id = (.error (.refused .outOfRange), r)

theorem Backed.get_country (h : r.Backed) (id : Int) (hid : r.store.contains id ≠ .ok true) :
    r.cache.get r.clock (Query.country id).key = (none, r.cache) := by
  refine Cache.get_of_find?_eq_none ?_
  cases hf : r.cache.find? r.clock (Query.country id).key with
  | none => rfl
  | some e =>
    obtain ⟨hmem, hlive, hkey⟩ := Cache.find?_eq_some hf
    exact absurd (h e hmem hlive id hkey) hid

theorem missesCountry_of_backed (h : r.Backed) (hfits : fits id)
    (hid : ∀ c ∈ r.store.countries, c.id ≠ id) : r.MissesCountry id := by
  have hcontains : r.contains id = .ok false := by
    rw [Registry.contains, contains_of_absent hfits hid]
    rfl
  have hget := h.get_country id (by rw [contains_of_absent hfits hid]; simp)
  refine ⟨?_, hcontains, fun d => ?_, ?_⟩
  · unfold country read
    rw [hget]
    dsimp only
    rw [load_of_absent hfits hid]
    rfl
  · rw [update_eq, hcontains]
  · rw [delete_eq, remove_of_absent hfits hid]

theorem refusesNumber_of_backed (h : r.Backed) (hfits : ¬fits id) : r.RefusesNumber id := by
  have hcheck := checkId_of_not_fits hfits
  have hstore : r.store.contains id = .error .outOfRange := by
    rw [Store.contains, hcheck, error_bind]
  have hcontains : r.contains id = .error (.refused .outOfRange) := by
    rw [Registry.contains, hstore]
    rfl
  have hget := h.get_country id (by rw [hstore]; simp)
  refine ⟨?_, hcontains, fun d => ?_, ?_⟩
  · unfold country read
    rw [hget]
    dsimp only
    rw [Query.load, hcheck, error_bind]
    rfl
  · rw [update_eq, hcontains]
  · rw [delete_eq, remove, hcheck, error_bind]

end Registry

end Gazetteer
