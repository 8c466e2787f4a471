import Gazetteer.Proofs.Registry.Step
import Gazetteer.Proofs.Store.Upkeep

/-!
# What every run keeps of the tables

Whatever is done, to a registry or behind its back, comes down to four writes to the tables.  So
what holds of empty tables and is kept by each of the writes holds in every registry that operations
lead to; for instance, that no two countries have the same number, and that every dialling code
belongs to one of them.

* `Store.Written`: one write;
* `Registry.store_perform`: an operation makes one write at most;
* `Registry.Reachable.store_induction`: what each write keeps, every run keeps;
* `exists_fields_of_create`, `exists_fields_of_replace`: what is written has no value absent;
* `Store.Written.linked`, `Registry.Reachable.linked`: rows that fit together still do.
-/

namespace Gazetteer

namespace Store

variable {s t : Store} {now : Instant} {c : Columns} {row : CountryRow} {id : Int}

/-! ## Writes -/

/-- **One write to the tables**, with any values. -/
inductive Written (s : Store) : Store → Prop
  | created {now : Instant} {c : Columns} {row : CountryRow} {t : Store}
      (hs : s.create now c = .ok (row, t)) : Written s t
  | replaced {now : Instant} {id : Int} {c : Columns} {row : CountryRow} {t : Store}
      (hs : s.replace now id c = .ok (some (row, t))) : Written s t
  | removed {id : Int} {t : Store} (hs : s.remove id = .ok (some t)) : Written s t
  | coded {now : Instant} {countryId : Option Int} {code : Option String} {isPrimary : Bool}
      {row : CodeRow} {t : Store}
      (hs : s.addCode now countryId code isPrimary = .ok (row, t)) : Written s t

/-- The tables as they were, or after one write. -/
def WrittenOnce (s t : Store) : Prop := t = s ∨ s.Written t

/-! ## What is saved of a write -/

theorem conduct_create_snd {P : Store → Prop} {commits : Bool} (hself : P s)
    (h : ∀ row t, s.create now c = .ok (row, t) → P t) :
    P (s.conduct (Work.create now c commits)).2 := by
  rw [conduct_create]
  rcases hs : s.create now c with fault | ⟨row, t⟩
  · exact hself
  · cases commits with
    | false => exact hself
    | true => exact h row t hs

theorem conduct_replace_snd {P : Store → Prop} {commits : Bool} (hself : P s)
    (h : ∀ row t, s.replace now id c = .ok (some (row, t)) → P t) :
    P (s.conduct (Work.replace now id c commits)).2 := by
  rw [conduct_replace]
  rcases hs : s.replace now id c with fault | (_ | ⟨row, t⟩)
  · exact hself
  · exact hself
  · cases commits with
    | false => exact hself
    | true => exact h row t hs

theorem conduct_remove_snd {P : Store → Prop} {commits : Bool} (hself : P s)
    (h : ∀ t, commits → s.remove id = .ok (some t) → P t) :
    P (s.conduct (Work.remove id commits)).2 := by
  rw [conduct_remove]
  rcases hs : s.remove id with fault | (_ | t)
  · exact hself
  · exact hself
  · cases commits with
    | false => exact hself
    | true => exact h t rfl hs

theorem conduct_addCode_snd {P : Store → Prop} {countryId : Option Int} {code : Option String}
    {isPrimary : Bool} (hself : P s)
    (h : ∀ row t, s.addCode now countryId code isPrimary = .ok (row, t) → P t) :
    P (s.conduct (Work.addCode now countryId code isPrimary)).2 := by
  rw [conduct_addCode]
  rcases hs : s.addCode now countryId code isPrimary with fault | ⟨row, t⟩
  · exact hself
  · exact h row t hs

/-! ## Rows that fit together -/

theorem exists_map_some {n countryId : Int} {isPrimary : Bool} {codes : List (Option String)}
    {rows : List CodeRow} (h : codeRows n countryId now isPrimary codes = .ok rows) :
    ∃ texts : List String, codes = texts.map some := by
  induction codes generalizing n isPrimary rows with
  | nil => exact ⟨[], rfl⟩
  | cons code codes ih =>
    obtain ⟨text, htext, h⟩ := bind_eq_ok_iff.mp h
    obtain ⟨rows', hrows, -⟩ := bind_eq_ok_iff.mp h
    obtain ⟨texts, rfl⟩ := ih hrows
    obtain rfl := present_eq_ok_iff.mp htext
    exact ⟨text :: texts, rfl⟩

theorem exists_fields {id countryId n : Int} {created modified : Instant} {isPrimary : Bool}
    {rows : List CodeRow} (hrow : s.countryRow id created modified c = .ok row)
    (hcodes : codeRows n countryId now isPrimary c.codes = .ok rows) : ∃ f, c = columns f := by
  obtain ⟨hname, hcontinent, hiso2, hiso3, -⟩ := countryRow_eq_ok_iff.mp hrow
  obtain ⟨texts, htexts⟩ := exists_map_some hcodes
  refine ⟨⟨row.name, row.continent, row.iso2, row.iso3, texts⟩, ?_⟩
  cases c
  simp_all [columns]

/-- **What is created has no value absent.** -/
theorem exists_fields_of_create (hs : s.create now c = .ok (row, t)) : ∃ f, c = columns f := by
  obtain ⟨row', hrow, hs⟩ := bind_eq_ok_iff.mp hs
  obtain ⟨rows, hcodes, -⟩ := bind_eq_ok_iff.mp hs
  exact exists_fields hrow hcodes

theorem exists_fields_of_replace (hs : s.replace now id c = .ok (some (row, t))) :
    ∃ f, c = columns f := by
  obtain ⟨_, -, hs⟩ := bind_eq_ok_iff.mp hs
  cases hold : s.country? id with
  | none => rw [hold] at hs; cases hs
  | some old =>
    rw [hold] at hs
    obtain ⟨row', hrow, hs⟩ := bind_eq_ok_iff.mp hs
    obtain ⟨rows, hcodes, -⟩ := bind_eq_ok_iff.mp hs
    exact exists_fields hrow hcodes

/-- **A new dialling code** is that of a country which is there, and has the next number. -/
theorem addCode_eq_ok {countryId : Option Int} {code : Option String} {isPrimary : Bool}
    {k : CodeRow} (hs : s.addCode now countryId code isPrimary = .ok (k, t)) :
    t = { s with codes := s.codes ++ [k] } ∧ (∃ c ∈ s.countries, c.id = k.countryId) ∧
      k.id = nextId (s.codes.map (·.id)) := by
  unfold addCode at hs
  cases countryId with
  | none => cases hs
  | some n =>
    obtain ⟨-, -, hs⟩ := bind_eq_ok_iff.mp hs
    obtain ⟨code, -, hs⟩ := bind_eq_ok_iff.mp hs
    cases hc : s.country? n with
    | none => simp [hc, error_bind] at hs
    | some c =>
      simp only [hc, Option.isNone_some, Bool.false_eq_true, if_false] at hs
      cases hs
      exact ⟨rfl, ⟨c, mem_of_country?_eq_some hc⟩, rfl⟩

/-- **No write leaves a dialling code without a country.** -/
theorem Written.linked (hw : s.Written t) (h : s.Linked) : t.Linked := by
  cases hw with
  | created hs =>
    obtain ⟨f, rfl⟩ := exists_fields_of_create hs
    exact h.create hs
  | replaced hs =>
    obtain ⟨f, rfl⟩ := exists_fields_of_replace hs
    exact h.replace hs
  | removed hs => exact h.remove hs
  | @coded _ _ _ _ row _ hs =>
    obtain ⟨rfl, hc, -⟩ := addCode_eq_ok hs
    refine ⟨h.ids, fun k hk => ?_⟩
    rcases List.mem_append.mp hk with hk | hk
    · exact h.owned k hk
    · obtain rfl : k = row := List.mem_singleton.mp hk
      exact hc

end Store

namespace Registry

open Store

variable {r : Registry}

/-! ## Operations -/

/-- What holds of the tables and of all that is saved of some work holds after the work. -/
theorem conduct_snd {α : Type} {P : Store → Prop} {w : Instant → Work α} (hself : P r.store)
    (h : ∀ now, P (r.store.conduct (w now)).2) : P (r.conduct w).2 := by
  unfold conduct
  cases r.now with
  | error fault => exact hself
  | ok now => exact h now

theorem conductOn_snd {α : Type} {P : Store → Prop} {id : Int} {w : Instant → Work (Option α)}
    (hself : P r.store) (h : ∀ now, P (r.store.conduct (w now)).2) : P (r.conductOn id w).2 := by
  unfold conductOn
  rcases r.contains id with fault | (_ | _)
  · exact hself
  · exact hself
  · exact conduct_snd hself h

theorem store_createRow (r : Registry) (c : Columns) (commits : Bool) :
    (r.perform (.createRow c commits)).2.store =
      (r.conduct fun now => Work.create now c commits).2 := by
  simp only [perform]
  split <;> next hc => rw [hc]

theorem store_replaceRow (r : Registry) (id : Int) (c : Columns) (commits : Bool) :
    (r.perform (.replaceRow id c commits)).2.store =
      (r.conductOn id fun now => Work.replace now id c commits).2 := by
  simp only [perform]
  split <;> next hc => rw [hc]

theorem store_removeRow (r : Registry) (id : Int) (commits : Bool) :
    (r.perform (.removeRow id commits)).2.store =
      (r.store.conduct (Work.remove id commits)).2 := by
  simp only [perform]
  split <;> next hc => rw [hc]

theorem store_addCode (r : Registry) (countryId : Option Int) (code : Option String)
    (isPrimary : Bool) :
    (r.perform (.addCode countryId code isPrimary)).2.store =
      (r.conduct fun now => Work.addCode now countryId code isPrimary).2 := by
  simp only [perform]
  split <;> next hc => rw [hc]

theorem writtenOnce_create (d : Country.Draft) : r.store.WrittenOnce (r.create d).2.store := by
  rcases r.create_cases d with ⟨now, row, t, -, hs, hr⟩ | ⟨fault, hr⟩
  · rw [hr]
    exact Or.inr (.created hs)
  · rw [hr]
    exact Or.inl rfl

theorem writtenOnce_update (id : Int) (d : Country.Draft) :
    r.store.WrittenOnce (r.update id d).2.store := by
  rcases r.update_cases id d with ⟨now, row, t, -, hs, hr⟩ | ⟨x, hr, -⟩
  · rw [hr]
    exact Or.inr (.replaced hs)
  · rw [hr]
    exact Or.inl rfl

theorem writtenOnce_delete (id : Int) : r.store.WrittenOnce (r.delete id).2.store := by
  rcases r.delete_cases id with ⟨t, hs, hr⟩ | ⟨x, hr, -⟩
  · rw [hr]
    exact Or.inr (.removed hs)
  · rw [hr]
    exact Or.inl rfl

theorem store_read (r : Registry) (q : Query) : (r.read q).2.store = r.store := by
  obtain ⟨c, hr⟩ := read_frame r q
  rw [hr]

/-- What is no write leaves the tables as they are. -/
theorem store_of_not_isWrite (r : Registry) {op : Operation} (hs : op.isService)
    (hw : op.isWrite = false) : (r.perform op).2.store = r.store := by
  cases op with
  | advance seconds => rw [perform_advance]
  | get id => exact r.store_read _
  | continents => exact r.store_read _
  | search data =>
    simp only [perform]
    cases Registry.request data with
    | error failure => rfl
    | ok request => exact r.store_read _
  | check data changes excluded =>
    simp only [perform]
    split
    · rfl
    · split <;> rfl
  | getRow id =>
    simp only [perform]
    split <;> rfl
  | searchRows data =>
    simp only [perform]
    split <;> rfl
  | contains | isUsed | invalidate | lifetimes | dump => rfl
  | create | update | delete => cases hw
  | createRow | replaceRow | removeRow | addCode => cases hs

/-- **An operation makes one write at most.** -/
theorem store_perform (r : Registry) (op : Operation) :
    r.store.WrittenOnce (r.perform op).2.store := by
  cases op with
  | create data changes =>
    simp only [perform]
    cases draft .creation data changes with
    | error failure => exact Or.inl rfl
    | ok d => exact writtenOnce_create d
  | update id data changes =>
    simp only [perform]
    cases draft .replacement data changes with
    | error failure => exact Or.inl rfl
    | ok d => exact writtenOnce_update id d
  | delete id => exact writtenOnce_delete id
  | advance | get | search | continents | contains | isUsed | check | invalidate | lifetimes
    | getRow | searchRows | dump => exact Or.inl (r.store_of_not_isWrite rfl rfl)
  | createRow columns commits =>
    rw [store_createRow]
    exact conduct_snd (Or.inl rfl) fun now =>
      conduct_create_snd (Or.inl rfl) fun _ _ hs => Or.inr (.created hs)
  | replaceRow id columns commits =>
    rw [store_replaceRow]
    exact conductOn_snd (Or.inl rfl) fun now =>
      conduct_replace_snd (Or.inl rfl) fun _ _ hs => Or.inr (.replaced hs)
  | removeRow id commits =>
    rw [store_removeRow]
    exact conduct_remove_snd (Or.inl rfl) fun _ _ hs => Or.inr (.removed hs)
  | addCode countryId code isPrimary =>
    rw [store_addCode]
    exact conduct_snd (Or.inl rfl) fun now =>
      conduct_addCode_snd (Or.inl rfl) fun _ _ hs => Or.inr (.coded hs)

/-! ## Runs -/

/-- **What holds of empty tables and is kept by every write holds after every run.** -/
theorem Reachable.store_induction {P : Store → Prop} (hempty : P .empty)
    (hwritten : ∀ s t, P s → s.Written t → P t) (h : r.Reachable) : P r.store := by
  induction h with
  | empty capacity retains clock lifetimes => exact hempty
  | @perform r op _ ih =>
    rcases r.store_perform op with heq | hw
    · rwa [heq]
    · exact hwritten _ _ ih hw
  | sweep _ ih => exact ih

/-- **No run leaves a dialling code without a country.** -/
theorem Reachable.linked (h : r.Reachable) : r.store.Linked :=
  h.store_induction linked_empty fun _ _ hs hw => hw.linked hs

end Registry

end Gazetteer
