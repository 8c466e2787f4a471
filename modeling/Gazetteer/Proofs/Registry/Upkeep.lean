import Gazetteer.Proofs.Registry.Transparency
import Gazetteer.Proofs.Store.Upkeep
import Gazetteer.Proofs.Time.Instants

/-!
# Orderly runs keep the tables well

Nothing in the tables says that a country has one primary dialling code, or that it was not modified
before it was created.  It is so all the same in every registry to which the service alone has led,
with drafts as they were accepted and a clock that is not set back: each write leaves its country as
it should be, and whatever fails leaves it as it was.

* `Orderly`: the registries that such runs lead to;
* `Registry.Kept`: the invariant: the tables are well kept, and every country was created at a time
  that the clock has shown;
* `kept_create`, `kept_update`, `kept_delete`: the three writes;
* `kept_after`: every event; `store_of_orderly`: what every run keeps of the tables.
-/

namespace Gazetteer

open Number Store Country

/-- An operation of the service that takes drafts as they are accepted. -/
def Operation.IsOrderly : Operation → Prop
  | .create _ changes | .update _ _ changes => changes = {}
  | op => op.isService

/-- An event of which the same is true. -/
def Event.IsOrderly : Event → Prop
  | .operation op => op.IsOrderly
  | .sweep => True

theorem Event.IsOrderly.isService {e : Event} (h : e.IsOrderly) : e.IsService := by
  cases e with
  | sweep => trivial
  | operation op => cases op <;> first | rfl | exact h

namespace Registry

variable {r : Registry}

/-- **The registries that orderly runs lead to**, from one without countries: all operations are
those of the service, with drafts as they are accepted, and the clock is not set back. -/
inductive Orderly : Registry → Prop
  | empty (capacity : Nat) (retains : Bool) (clock : Quantity) (lifetimes : Lifetimes) :
      Orderly ⟨.empty, .empty capacity retains, clock, lifetimes⟩
  | after {r : Registry} (e : Event) : Orderly r → e.IsOrderly →
      r.clock.Le (e.clockAfter r.clock) → Orderly (r.after e)

/-- **The tables are well kept**, and every country was created at a time that the clock has
shown. -/
structure Kept (r : Registry) : Prop where
  tables : r.store.WellKept
  past : ∀ c ∈ r.store.countries, ∃ q : Quantity, q.Le r.clock ∧ Instant.ofClock q = .ok c.created

theorem now_eq_ok_iff {t : Instant} : r.now = .ok t ↔ Instant.ofClock r.clock = .ok t := by
  unfold now
  cases Instant.ofClock r.clock <;> simp [Except.mapError]

/-- No country was created later than now. -/
theorem Kept.created_le (h : r.Kept) {t : Instant} (ht : r.now = .ok t) {c : CountryRow}
    (hc : c ∈ r.store.countries) : c.created ≤ t := by
  obtain ⟨q, hq, hcreated⟩ := h.past c hc
  exact Instant.ofClock_mono hq hcreated (now_eq_ok_iff.mp ht)

/-! ## Writes -/

theorem kept_create (h : r.Kept) {d : Draft} (hd : d.fields.Valid) : (r.create d).2.Kept := by
  rcases r.create_cases d with ⟨now, row, t, hnow, hs, hr⟩ | ⟨fault, hr⟩
  · rw [hr]
    have hclock := now_eq_ok_iff.mp hnow
    obtain ⟨hrow, -, ht⟩ := create_columns_eq_ok hs
    refine ⟨h.tables.create hd hs, fun c hc => ?_⟩
    have hc : c ∈ r.store.countries ++ [row] := by simpa [wrote, invalidate, ht] using hc
    rcases List.mem_append.mp hc with hc | hc
    · exact h.past c hc
    · refine ⟨r.clock, Instant.le_of_ofClock hclock, ?_⟩
      rw [List.mem_singleton.mp hc, hrow]
      exact hclock
  · rw [hr]
    exact h

theorem kept_update (h : r.Kept) {id : Int} {d : Draft} (hd : d.fields.Valid) :
    (r.update id d).2.Kept := by
  rcases r.update_cases id d with ⟨now, row, t, hnow, hs, hr⟩ | ⟨x, hr, -⟩
  · rw [hr]
    obtain ⟨old, hold, hrow, -, n, ht⟩ := replace_columns_eq_ok hs
    have hmem := (mem_of_country?_eq_some hold).1
    have hdate : ∀ old', r.store.country? id = some old' → old'.created ≤ now := by
      intro old' hold'
      exact h.created_le hnow (mem_of_country?_eq_some hold').1
    refine ⟨h.tables.replace hd hdate hs, fun c hc => ?_⟩
    have hc : c ∈ r.store.countries.map fun c => if c.id = id then row else c := by
      simpa [wrote, invalidate, ht] using hc
    obtain ⟨e, he, rfl⟩ := List.mem_map.mp hc
    by_cases hid : e.id = id
    · rw [if_pos hid, hrow]
      exact h.past old hmem
    · rw [if_neg hid]
      exact h.past e he
  · rw [hr]
    exact h

theorem kept_delete (h : r.Kept) (id : Int) : (r.delete id).2.Kept := by
  rcases r.delete_cases id with ⟨t, hs, hr⟩ | ⟨x, hr, -⟩
  · rw [hr]
    refine ⟨h.tables.remove hs, fun c hc => ?_⟩
    have hc : c ∈ r.store.countries.filter (·.id ≠ id) := by
      simpa [wrote, invalidate, remove_eq_ok hs] using hc
    exact h.past c (List.mem_filter.mp hc).1
  · rw [hr]
    exact h

/-! ## Runs -/

theorem kept_of_frame (h : r.Kept) {r' : Registry} (hs : r'.store = r.store)
    (hc : r.clock.Le r'.clock ∨ r'.clock = r.clock) : r'.Kept := by
  refine ⟨hs ▸ h.tables, fun c hmem => ?_⟩
  rw [hs] at hmem
  obtain ⟨q, hq, hcreated⟩ := h.past c hmem
  refine ⟨q, ?_, hcreated⟩
  rcases hc with hc | hc
  · exact Quantity.le_trans hq hc
  · rwa [hc]

/-- **Every orderly event leaves the tables well kept.** -/
theorem kept_after (h : r.Kept) {e : Event} (ho : e.IsOrderly)
    (ht : r.clock.Le (e.clockAfter r.clock)) : (r.after e).Kept := by
  cases e with
  | sweep => exact kept_of_frame h rfl (Or.inr rfl)
  | operation op =>
    have hread : ∀ q : Query, (r.read q).2.Kept := fun q => by
      obtain ⟨c, hr⟩ := read_frame r q
      rw [hr]
      exact kept_of_frame h rfl (Or.inr rfl)
    cases op with
    | advance seconds =>
      rw [after, perform_advance]
      exact kept_of_frame h rfl (Or.inl ht)
    | create data changes =>
      obtain rfl : changes = {} := ho
      simp only [after, perform, draft, Draft.change]
      cases hd : Draft.readFor .creation data with
      | error rejection => exact h
      | ok d => exact kept_create h (Draft.valid_of_readFor hd)
    | update id data changes =>
      obtain rfl : changes = {} := ho
      simp only [after, perform, draft, Draft.change]
      cases hd : Draft.readFor .replacement data with
      | error rejection => exact h
      | ok d => exact kept_update h (Draft.valid_of_readFor hd)
    | delete id => exact kept_delete h id
    | get id => exact hread (.country id)
    | search data =>
      simp only [after, perform]
      cases Registry.request data with
      | error failure => exact h
      | ok request => exact hread (.search request)
    | continents => exact hread .continents
    | check data changes excluded =>
      simp only [after, perform]
      split
      · exact h
      · split <;> exact h
    | getRow id =>
      simp only [after, perform]
      cases checkId id <;> exact h
    | searchRows data =>
      simp only [after, perform]
      cases Registry.request data <;> exact h
    | invalidate family => exact kept_of_frame h rfl (Or.inr rfl)
    | contains | isUsed | lifetimes | dump => exact h
    | createRow | replaceRow | removeRow | addCode => cases ho

/-- **So does every orderly run.** -/
theorem kept_of_orderly (h : Orderly r) : r.Kept := by
  induction h with
  | empty => exact ⟨wellKept_empty, by simp [Store.empty]⟩
  | after e _ ho ht ih => exact kept_after ih ho ht

/-- **What orderly runs keep of the tables.**  Every country has a trimmed name of 1 to 100 and a
trimmed continent of 1 to 50 characters, and codes of two and three capital letters; no two have the
same name or the same code.  Every dialling code belongs to a country and consists of up to 20
digits, hyphens and plus signs; every country has one, and exactly one of them is primary, which is
the one with the least number.  No country was modified before it was created, and its dialling
codes are as old as its last modification. -/
theorem store_of_orderly (h : Orderly r) :
    (∀ c ∈ r.store.countries, IsLabel 100 c.name ∧ IsLabel 50 c.continent ∧
      IsIsoCode 2 c.iso2 ∧ IsIsoCode 3 c.iso3) ∧
    ((r.store.countries.map (·.name)).Nodup ∧ (r.store.countries.map (·.iso2)).Nodup ∧
      (r.store.countries.map (·.iso3)).Nodup) ∧
    (∀ k ∈ r.store.codes, IsDiallingCode k.code ∧ ∃ c ∈ r.store.countries, c.id = k.countryId) ∧
    (∀ c ∈ r.store.countries, ∃ k ∈ r.store.codesOf c.id,
      ∀ l ∈ r.store.codesOf c.id, (l.isPrimary ↔ l = k) ∧ k.id ≤ l.id) ∧
    (∀ c ∈ r.store.countries, c.created ≤ c.modified) ∧
    ∀ k ∈ r.store.codes, ∀ c ∈ r.store.countries, c.id = k.countryId →
      k.created = c.modified ∧ k.modified = c.modified := by
  have ht := (kept_of_orderly h).tables
  have hof : ∀ k ∈ r.store.codes, ∀ c : CountryRow, c.id = k.countryId →
      k ∈ r.store.codesOf c.id := by
    intro k hk c hc
    unfold codesOf
    exact List.mem_filter.mpr ⟨hk, by simp [hc]⟩
  refine ⟨fun c hc => ?_, ⟨ht.names, ht.iso2, ht.iso3⟩, fun k hk => ?_, fun c hc => ?_,
    fun c hc => (ht.kept c hc).dates, fun k hk c hc hid => ?_⟩
  · have hvalid := (ht.kept c hc).valid
    exact ⟨hvalid.name, hvalid.continent, hvalid.iso2, hvalid.iso3⟩
  · obtain ⟨c, hc, hid⟩ := ht.owned k hk
    have hcode : k.code ∈ (r.store.codesOf c.id).map (·.code) :=
      List.mem_map_of_mem (hof k hk c hid)
    exact ⟨(ht.kept c hc).valid.codes _ hcode, c, hc, hid⟩
  · obtain ⟨n, hwritten⟩ := (ht.kept c hc).written
    rw [hwritten]
    exact exists_primary n c.id c.modified (ht.kept c hc).valid.codes_ne_nil
  · obtain ⟨n, hwritten⟩ := (ht.kept c hc).written
    have hmem := hof k hk c hid
    rw [hwritten] at hmem
    obtain ⟨-, hcreated, hmodified, -⟩ := mem_rowsFrom hmem
    exact ⟨hcreated, hmodified⟩

/-- Orderly events at times that are in order make an orderly run. -/
theorem orderly_foldl {events : List Event} (h : Orderly r) (ho : ∀ e ∈ events, e.IsOrderly)
    (ht : Timely r.lifetimes r.clock events) : Orderly (events.foldl after r) := by
  induction events generalizing r with
  | nil => exact h
  | cons e events ih =>
    obtain ⟨-, hforward, hrest⟩ := ht
    have he : e.IsOrderly := ho e List.mem_cons_self
    obtain ⟨hclock, hlifetimes⟩ := after_frame r he.isService
    rw [← hclock, ← hlifetimes] at hrest
    exact ih (.after e h he hforward) (fun e' he' => ho e' (List.mem_cons_of_mem e he')) hrest

/-- A country is created, and an hour later it gets another name and two other dialling codes. -/
def eswatini : List Event :=
  let former : Json := .object [("name", .text " Swaziland "), ("continent", .text "Africa"),
    ("countryCode", .text "268"), ("iso2", .text "sz"), ("iso3", .text "swz")]
  let present : Json := .object [("name", .text "Eswatini"), ("continent", .text "Africa"),
    ("countryCode", .text "+268, 00268"), ("iso2", .text "sz"), ("iso3", .text "swz")]
  [.operation (.create former {}), .operation (.advance (.whole 3600)),
    .operation (.update 1 present {})]

/-- The registry after that. -/
def renamed : Registry := eswatini.foldl after ⟨.empty, .empty 1 true, 0, ⟨60, 60⟩⟩

theorem store_renamed : Orderly renamed ∧
    renamed.store = ⟨[⟨1, "Eswatini", "Africa", "SZ", "SWZ", 0, 3600000000⟩],
      [⟨1, 1, "+268", true, 3600000000, 3600000000⟩,
        ⟨2, 1, "00268", false, 3600000000, 3600000000⟩]⟩ ∧
    ∀ c ∈ renamed.store.countries, c.created ≤ c.modified ∧ ∃ k ∈ renamed.store.codesOf c.id,
      ∀ l ∈ renamed.store.codesOf c.id, (l.isPrimary ↔ l = k) ∧ k.id ≤ l.id := by
  have ho : Orderly renamed := by
    unfold renamed
    refine orderly_foldl (.empty 1 true 0 ⟨60, 60⟩) ?_ (timely_of_whole _ fun seconds h => ?_)
    · simp [eswatini, Event.IsOrderly, Operation.IsOrderly, Operation.isService]
    · exact ⟨3600, by simpa [eswatini] using h⟩
  obtain ⟨-, -, -, hprimary, hdates, -⟩ := store_of_orderly ho
  exact ⟨ho, by decide +kernel, fun c hc => ⟨hdates c hc, hprimary c hc⟩⟩

end Registry

end Gazetteer
