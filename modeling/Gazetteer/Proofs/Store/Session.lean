import Gazetteer.Store.Session

/-!
# What a write comes to

A write takes its statements one after another, and may be refused at each of them: at the row of
the country, or at any of its dialling codes.  Taken as a whole it comes to what the functions of
`Store.Write` say, and a refusal at whatever point leaves the saved tables as they were.

* `conduct_undone`: rolling back makes no difference to what is saved;
* `conduct_create`, `conduct_replace`, `conduct_remove`, `conduct_addCode`: the writes as a whole;
* `savesOnly_create` and its like: what is refused is not saved.
-/

namespace Gazetteer

theorem ok_bind {ε α β : Type} (a : α) (f : α → Except ε β) : (Except.ok a >>= f) = f a := rfl

theorem error_bind {ε α β : Type} (e : ε) (f : α → Except ε β) :
    (Except.error e >>= f) = .error e := rfl

theorem bind_eq_ok_iff {ε α β : Type} {x : Except ε α} {f : α → Except ε β} {b : β} :
    (x >>= f) = .ok b ↔ ∃ a, x = .ok a ∧ f a = .ok b := by
  cases x <;> simp [ok_bind, error_bind]

namespace Store

/-! ## Numbers of rows -/

/-- The number of a new row is greater than that of any other row. -/
theorem lt_nextId {ids : List Int} {id : Int} (h : id ∈ ids) : id < nextId ids := by
  suffices hle : ∀ (ids : List Int) (m : Int),
      m ≤ ids.foldl max m ∧ ∀ i ∈ ids, i ≤ ids.foldl max m by
    have := (hle ids 0).2 id h
    unfold nextId
    omega
  intro ids
  induction ids with
  | nil => simp
  | cons a ids ih =>
    intro m
    obtain ⟨h₁, h₂⟩ := ih (max m a)
    simp only [List.foldl_cons, List.mem_cons, forall_eq_or_imp]
    exact ⟨by omega, by omega, h₂⟩

theorem id_ne_nextId {s : Store} {c : CountryRow} (hc : c ∈ s.countries) :
    c.id ≠ nextId (s.countries.map (·.id)) := by
  have hlt := lt_nextId (List.mem_map_of_mem (f := fun r : CountryRow => r.id) hc)
  omega

/-- Numbers are given out in a row. -/
theorem nextId_append_nextId (ids : List Int) : nextId (ids ++ [nextId ids]) = nextId ids + 1 := by
  simp only [nextId, List.foldl_append, List.foldl_cons, List.foldl_nil]
  omega

theorem isSome_country?_of_mem {s : Store} {row : CountryRow} (h : row ∈ s.countries) :
    (s.country? row.id).isSome := by
  unfold country?
  rw [List.find?_isSome]
  exact ⟨row, h, by simp⟩

theorem mem_of_country?_eq_some {s : Store} {id : Int} {row : CountryRow}
    (h : s.country? id = some row) : row ∈ s.countries ∧ row.id = id :=
  ⟨List.mem_of_find?_eq_some h, by simpa using List.find?_some h⟩

theorem country?_eq_none {s : Store} {id : Int} (h : ∀ c ∈ s.countries, c.id ≠ id) :
    s.country? id = none :=
  List.find?_eq_none.mpr (by simpa using h)

theorem checkId_of_fits {id : Int} (h : fits id) : checkId id = .ok () := if_pos h

theorem checkId_of_not_fits {id : Int} (h : ¬fits id) : checkId id = .error .outOfRange := if_neg h

theorem fits_of_checkId {id : Int} {u : Unit} (h : checkId id = .ok u) : fits id := by
  unfold checkId at h
  split at h
  · assumption
  · cases h

/-! ## The row of a country -/

theorem present_eq_ok_iff {column : Column} {o : Option String} {x : String} :
    present column o = .ok x ↔ o = some x := by
  cases o <;> simp [present]

theorem free_eq_ok_iff {s : Store} {id : Int} {column : Column} {value : CountryRow → String}
    {x : String} {u : Unit} : s.free id column value x = .ok u ↔ s.isTaken id value x = false := by
  unfold free
  cases s.isTaken id value x <;> simp

/-- **A row is accepted** if no value is absent and no other row has one of its three values. -/
theorem countryRow_eq_ok_iff {s : Store} {id : Int} {created modified : Instant} {c : Columns}
    {row : CountryRow} : s.countryRow id created modified c = .ok row ↔
      c.name = some row.name ∧ c.continent = some row.continent ∧ c.iso2 = some row.iso2 ∧
      c.iso3 = some row.iso3 ∧ s.isTaken id (·.iso3) row.iso3 = false ∧
      s.isTaken id (·.iso2) row.iso2 = false ∧ s.isTaken id (·.name) row.name = false ∧
      row.id = id ∧ row.created = created ∧ row.modified = modified := by
  simp only [countryRow, bind_eq_ok_iff, present_eq_ok_iff, free_eq_ok_iff]
  constructor
  · rintro ⟨name, hn, continent, hc, iso2, h2, iso3, h3, -, f3, -, f2, -, fn, h⟩
    cases h
    exact ⟨hn, hc, h2, h3, f3, f2, fn, rfl, rfl, rfl⟩
  · rintro ⟨hn, hc, h2, h3, f3, f2, fn, rfl, rfl, rfl⟩
    exact ⟨_, hn, _, hc, _, h2, _, h3, (), f3, (), f2, (), fn, rfl⟩

theorem id_of_countryRow {s : Store} {id : Int} {created modified : Instant} {c : Columns}
    {row : CountryRow} (h : s.countryRow id created modified c = .ok row) : row.id = id := by
  obtain ⟨-, -, -, -, -, -, -, hid, -⟩ := countryRow_eq_ok_iff.mp h
  exact hid

namespace Work

/-! ## The statements -/

theorem exec_find (id : Int) (x : Session) :
    (find id).exec x = ((checkId id).map fun _ => x.working.country? id, x) := by
  unfold find
  simp only [exec_bind, exec_demand]
  cases checkId id <;> rfl

theorem exec_insertCountry (now : Instant) (c : Columns) (x : Session) :
    (insertCountry now c).exec x =
      match x.working.countryRow (nextId (x.working.countries.map (·.id))) now now c with
      | .ok row => (.ok row, { x with working := { x.working with
          countries := x.working.countries ++ [row] } })
      | .error fault => (.error fault, x) := by
  unfold insertCountry
  simp only [exec_bind, exec_tables, exec_demand]
  cases x.working.countryRow (nextId (x.working.countries.map (·.id))) now now c <;> rfl

theorem exec_updateCountry (now : Instant) (old : CountryRow) (c : Columns) (x : Session) :
    (updateCountry now old c).exec x =
      match x.working.countryRow old.id old.created now c with
      | .ok row => (.ok row, { x with working := { x.working with
          countries := x.working.countries.map fun r => if r.id = old.id then row else r } })
      | .error fault => (.error fault, x) := by
  unfold updateCountry
  simp only [exec_bind, exec_tables, exec_demand]
  cases x.working.countryRow old.id old.created now c <;> rfl

theorem exec_insertCode {now : Instant} {id : Int} {p : Bool} {x : Session}
    (h : (x.working.country? id).isSome) (code : String) :
    (insertCode now id p (some code)).exec x =
      (.ok ⟨nextId (x.working.codes.map (·.id)), id, code, p, now, now⟩,
        { x with working := { x.working with
          codes := x.working.codes ++
            [⟨nextId (x.working.codes.map (·.id)), id, code, p, now, now⟩] } }) := by
  simp [insertCode, exec_bind, exec_map, present, h, Except.map]

theorem exec_insertCode_none (now : Instant) (id : Int) (p : Bool) (x : Session) :
    (insertCode now id p none).exec x = (.error (.absent .code), x) := by
  simp [insertCode, exec_bind, present]

/-- **The dialling codes of a country**, put in one by one, get the numbers in a row that they would
get all at once; the refusal of one of them leaves those before it in the session. -/
theorem exec_insertCodes (now : Instant) (id : Int) {x : Session}
    (h : (x.working.country? id).isSome) (p : Bool) (codes : List (Option String)) :
    match codeRows (nextId (x.working.codes.map (·.id))) id now p codes with
    | .ok rows => (insertCodes now id p codes).exec x =
        (.ok (), { x with working := { x.working with codes := x.working.codes ++ rows } })
    | .error fault => ∃ t, (insertCodes now id p codes).exec x =
        (.error fault, { x with working := t }) := by
  induction codes generalizing x p with
  | nil => simp [codeRows, insertCodes]
  | cons code codes ih =>
    cases code with
    | none =>
      simp only [codeRows, present, error_bind]
      exact ⟨x.working, by simp [insertCodes, exec_bind, exec_insertCode_none]⟩
    | some code =>
      -- the session after the first code, from which the others go on
      let row : CodeRow := ⟨nextId (x.working.codes.map (·.id)), id, code, p, now, now⟩
      let y : Session := { x with working := { x.working with codes := x.working.codes ++ [row] } }
      have hy : (y.working.country? id).isSome := h
      have hnext : nextId (y.working.codes.map (·.id)) =
          nextId (x.working.codes.map (·.id)) + 1 := by
        simp only [y, row, List.map_append, List.map_cons, List.map_nil]
        exact nextId_append_nextId _
      have hrest := ih hy false
      rw [hnext] at hrest
      simp only [codeRows, present, ok_bind, insertCodes, exec_bind, exec_insertCode h]
      cases hc : codeRows (nextId (x.working.codes.map (·.id)) + 1) id now false codes with
      | error fault =>
        rw [hc] at hrest
        obtain ⟨t, ht⟩ := hrest
        exact ⟨t, ht⟩
      | ok rows =>
        rw [hc] at hrest
        simpa [y, row, ok_bind] using hrest

end Work

/-! ## The writes -/

open Work

/-- **Rolling back makes no difference to what is saved.** -/
theorem conduct_undone (s : Store) (w : Work α) : s.conduct w.undone = s.conduct w := by
  unfold conduct
  rw [exec_undone]
  cases h : w.exec ⟨s, s⟩ with
  | mk a y => cases a <;> rfl

/-- **A new country**, as a whole. -/
theorem conduct_create (s : Store) (now : Instant) (c : Columns) (commits : Bool) :
    s.conduct (Work.create now c commits) = match s.create now c with
      | .ok (row, t) => (.ok (row, t.detail row), if commits then t else s)
      | .error fault => (.error fault, s) := by
  unfold conduct Work.create Store.create
  simp only [exec_bind, exec_insertCountry]
  cases hr : s.countryRow (nextId (s.countries.map (·.id))) now now c with
  | error fault => rfl
  | ok row =>
    -- the dialling codes are put in when the country is there already
    have hcodes := exec_insertCodes now row.id
      (x := ⟨s, { s with countries := s.countries ++ [row] }⟩) (isSome_country?_of_mem (by simp))
      true c.codes
    simp only [ok_bind] at hcodes ⊢
    cases hc : codeRows (nextId (s.codes.map (·.id))) row.id now true c.codes with
    | error fault =>
      rw [hc] at hcodes
      obtain ⟨t, ht⟩ := hcodes
      rw [ht]
      rfl
    | ok rows =>
      rw [hc] at hcodes
      rw [hcodes]
      cases commits <;> rfl

/-- **New values for a country**, as a whole. -/
theorem conduct_replace (s : Store) (now : Instant) (id : Int) (c : Columns) (commits : Bool) :
    s.conduct (Work.replace now id c commits) = match s.replace now id c with
      | .ok (some (row, t)) => (.ok (some (row, t.detail row)), if commits then t else s)
      | .ok none => (.ok none, s)
      | .error fault => (.error fault, s) := by
  unfold conduct Work.replace Store.replace
  simp only [exec_bind, exec_find]
  cases checkId id with
  | error fault => rfl
  | ok _ =>
    simp only [Except.map, ok_bind]
    cases hold : s.country? id with
    | none => rfl
    | some old =>
      obtain ⟨hmem, rfl⟩ := mem_of_country?_eq_some hold
      simp only [exec_bind, exec_updateCountry]
      cases hr : s.countryRow old.id old.created now c with
      | error fault => rfl
      | ok row =>
        -- the country keeps its number, so that the new dialling codes find it
        have hid : row.id = old.id := id_of_countryRow hr
        have hrow : row ∈ s.countries.map fun r => if r.id = old.id then row else r :=
          List.mem_map.mpr ⟨old, hmem, by simp⟩
        have hcodes := exec_insertCodes now row.id
          (x := ⟨s, ⟨s.countries.map fun r => if r.id = old.id then row else r,
            s.codes.filter (·.countryId ≠ old.id)⟩⟩) (isSome_country?_of_mem hrow) true c.codes
        rw [hid] at hcodes
        simp only [ok_bind, deleteCodes, exec_change] at hcodes ⊢
        cases hc : codeRows (nextId ((s.codes.filter (·.countryId ≠ old.id)).map (·.id))) old.id
            now true c.codes with
        | error fault =>
          rw [hc] at hcodes
          obtain ⟨t, ht⟩ := hcodes
          rw [ht]
          rfl
        | ok rows =>
          rw [hc] at hcodes
          rw [hcodes]
          cases commits <;> rfl

/-- **The tables without a country**, as a whole. -/
theorem conduct_remove (s : Store) (id : Int) (commits : Bool) :
    s.conduct (Work.remove id commits) = match s.remove id with
      | .ok (some t) => (.ok true, if commits then t else s)
      | .ok none => (.ok false, s)
      | .error fault => (.error fault, s) := by
  unfold conduct Work.remove Store.remove
  simp only [exec_bind, exec_find]
  cases checkId id with
  | error fault => rfl
  | ok _ =>
    simp only [Except.map, ok_bind]
    cases s.country? id with
    | none => rfl
    | some old => cases commits <;> rfl

/-- **One more dialling code**, as a whole. -/
theorem conduct_addCode (s : Store) (now : Instant) (countryId : Option Int)
    (code : Option String) (isPrimary : Bool) :
    s.conduct (Work.addCode now countryId code isPrimary) =
      match s.addCode now countryId code isPrimary with
      | .ok (row, t) => (.ok row, t)
      | .error fault => (.error fault, s) := by
  unfold conduct Work.addCode Store.addCode
  cases countryId with
  | none => rfl
  | some id =>
    simp only [exec_bind, exec_demand]
    cases checkId id with
    | error fault => rfl
    | ok _ =>
      simp only [ok_bind]
      cases code with
      | none => rfl
      | some code =>
        cases h : s.country? id with
        | none => simp [insertCode, exec_bind, present, h, ok_bind, error_bind]
        | some old =>
          simp only [exec_insertCode (x := ⟨s, s⟩) (by rw [h]; rfl)]
          rfl

/-! ## What is saved -/

/-- **Work that saves nothing** unless its answer has a certain property. -/
def SavesOnly (P : α → Prop) (w : Work α) : Prop :=
  ∀ s : Store, (s.conduct w).2 = s ∨ ∃ a, (s.conduct w).1 = .ok a ∧ P a

theorem savesOnly_create (now : Instant) (c : Columns) (commits : Bool) :
    SavesOnly (fun _ => True) (Work.create now c commits) := by
  intro s
  rw [conduct_create]
  rcases s.create now c with fault | ⟨row, t⟩
  · exact Or.inl rfl
  · exact Or.inr ⟨_, rfl, trivial⟩

theorem savesOnly_replace (now : Instant) (id : Int) (c : Columns) (commits : Bool) :
    SavesOnly (fun a => a.isSome) (Work.replace now id c commits) := by
  intro s
  rw [conduct_replace]
  rcases s.replace now id c with fault | (_ | ⟨row, t⟩)
  · exact Or.inl rfl
  · exact Or.inl rfl
  · exact Or.inr ⟨_, rfl, rfl⟩

theorem savesOnly_remove (id : Int) (commits : Bool) :
    SavesOnly (fun a => a = true) (Work.remove id commits) := by
  intro s
  rw [conduct_remove]
  rcases s.remove id with fault | (_ | t)
  · exact Or.inl rfl
  · exact Or.inl rfl
  · exact Or.inr ⟨_, rfl, rfl⟩

theorem savesOnly_addCode (now : Instant) (countryId : Option Int) (code : Option String)
    (isPrimary : Bool) : SavesOnly (fun _ => True) (Work.addCode now countryId code isPrimary) := by
  intro s
  rw [conduct_addCode]
  rcases s.addCode now countryId code isPrimary with fault | ⟨row, t⟩
  · exact Or.inl rfl
  · exact Or.inr ⟨_, rfl, trivial⟩

end Store

end Gazetteer
