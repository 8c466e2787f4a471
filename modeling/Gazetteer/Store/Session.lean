import Gazetteer.Store.Write

/-!
# Sessions

A write takes several statements, and each of them may be refused.  A `Session` holds the tables as
they are saved beside the tables as the statements so far have left them; only a commit makes the
latter the former.  `Work` is a row of statements that ends at the first refusal, and what went
before the refusal stays in the session until it is rolled back or closed.

* `insertCountry`, `updateCountry`, `deleteCountry`, `insertCode`, `deleteCodes`: the statements;
* `create`, `replace`, `remove`, `addCode`: the writes, step by step;
* `undone`: work that rolls back when it is refused;
* `Store.conduct`: work in a session of its own, and what is saved of it;
* `exec_bind` and the other equations of `exec`: what a step answers and leaves.
-/

namespace Gazetteer.Store

/-- **The tables during a piece of work.** -/
structure Session where
  /-- The tables as they are saved. -/
  saved : Store
  /-- The tables as the work sees them. -/
  working : Store
  deriving DecidableEq, Repr

/-- **A row of statements**, which ends at the first that is refused. -/
abbrev Work := ExceptT Fault (StateM Session)

namespace Work

/-- The answer of a piece of work and the session after it. -/
def exec (w : Work α) (x : Session) : Except Fault α × Session := (ExceptT.run w).run x

/-! ## Statements -/

/-- The tables as the work sees them. -/
def tables : Work Store := return (← get).working

/-- Changes the tables as the work sees them. -/
def change (f : Store → Store) : Work Unit := modify fun x => { x with working := f x.working }

/-- A demand, which changes nothing whether it is met or not. -/
def demand (x : Except Fault α) : Work α := liftExcept x

/-- The country with a number. -/
def find (id : Int) : Work (Option CountryRow) := do
  demand (checkId id)
  let s ← tables
  return s.country? id

/-- A new row for a country. -/
def insertCountry (now : Instant) (c : Columns) : Work CountryRow := do
  let s ← tables
  let row ← demand (s.countryRow (nextId (s.countries.map (·.id))) now now c)
  change fun s => { s with countries := s.countries ++ [row] }
  return row

/-- New values in the row of a country, and the instant of the change.  The table would fill in the
time of a change by itself; that is taken to be the same instant. -/
def updateCountry (now : Instant) (old : CountryRow) (c : Columns) : Work CountryRow := do
  let s ← tables
  let row ← demand (s.countryRow old.id old.created now c)
  change fun s => { s with countries := s.countries.map fun r => if r.id = old.id then row else r }
  return row

/-- A country is struck out, and its dialling codes with it. -/
def deleteCountry (id : Int) : Work Unit :=
  change fun s => ⟨s.countries.filter (·.id ≠ id), s.codes.filter (·.countryId ≠ id)⟩

/-- The dialling codes of a country are struck out. -/
def deleteCodes (id : Int) : Work Unit :=
  change fun s => { s with codes := s.codes.filter (·.countryId ≠ id) }

/-- A new row for a dialling code, whose country has to exist. -/
def insertCode (now : Instant) (countryId : Int) (isPrimary : Bool) (code : Option String) :
    Work CodeRow := do
  let s ← tables
  let code ← demand (present .code code)
  demand (if (s.country? countryId).isSome then .ok () else .error .noCountry)
  let row : CodeRow := ⟨nextId (s.codes.map (·.id)), countryId, code, isPrimary, now, now⟩
  change fun s => { s with codes := s.codes ++ [row] }
  return row

/-- New rows for the dialling codes of a country; only the first may be primary. -/
def insertCodes (now : Instant) (countryId : Int) (isPrimary : Bool) :
    List (Option String) → Work Unit
  | [] => return ()
  | code :: codes => do
    let _ ← insertCode now countryId isPrimary code
    insertCodes now countryId false codes

/-! ## Saving and undoing -/

/-- **What the work has done is saved.** -/
def commit : Work Unit := modify fun x => { x with saved := x.working }

/-- **What the work has done since it was last saved is undone.** -/
def rollback : Work Unit := modify fun x => { x with working := x.saved }

/-- Saves what the work has done if it is to last. -/
def finish (commits : Bool) : Work Unit := if commits then commit else return ()

/-- Work that is undone when it is refused. -/
def undone (w : Work α) : Work α :=
  tryCatch w fun fault => do
    rollback
    throw fault

/-! ## Writes -/

/-- **A new country** with its dialling codes, of which the first is the primary one. -/
def create (now : Instant) (c : Columns) (commits : Bool) :
    Work (CountryRow × Country.Detail) := do
  let row ← insertCountry now c
  insertCodes now row.id true c.codes
  finish commits
  return (row, (← tables).detail row)

/-- **New values for a country.**  Its dialling codes are struck out before the new ones are put in.
Nothing if there is no such country. -/
def replace (now : Instant) (id : Int) (c : Columns) (commits : Bool) :
    Work (Option (CountryRow × Country.Detail)) := do
  match ← find id with
  | none => return none
  | some old =>
    let row ← updateCountry now old c
    deleteCodes id
    insertCodes now id true c.codes
    finish commits
    return some (row, (← tables).detail row)

/-- **A country is removed** with its dialling codes; the answer is whether there was one. -/
def remove (id : Int) (commits : Bool) : Work Bool := do
  match ← find id with
  | none => return false
  | some _ =>
    deleteCountry id
    finish commits
    return true

/-- **One more dialling code for a country.** -/
def addCode (now : Instant) (countryId : Option Int) (code : Option String) (isPrimary : Bool) :
    Work CodeRow := do
  match countryId with
  | none => throw (.absent .country)
  | some id =>
    demand (checkId id)
    let row ← insertCode now id isPrimary code
    commit
    return row

/-! ## What a step answers and leaves -/

section
variable {α β : Type} (x : Session)

@[simp] theorem exec_pure (a : α) : (pure a : Work α).exec x = (.ok a, x) := rfl

@[simp] theorem exec_throw (fault : Fault) :
    (throw fault : Work α).exec x = (.error fault, x) := rfl

@[simp] theorem exec_tables : tables.exec x = (.ok x.working, x) := rfl

@[simp] theorem exec_change (f : Store → Store) :
    (change f).exec x = (.ok (), { x with working := f x.working }) := rfl

@[simp] theorem exec_demand (e : Except Fault α) : (demand e).exec x = (e, x) := by
  cases e <;> rfl

/-- **A refusal ends the work** and leaves the session as it is. -/
theorem exec_bind (w : Work α) (k : α → Work β) :
    (w >>= k).exec x = match w.exec x with
      | (.ok a, y) => (k a).exec y
      | (.error fault, y) => (.error fault, y) := by
  unfold exec
  rw [ExceptT.run_bind, StateT.run_bind]
  cases h : StateT.run w.run x with
  | mk a y => cases a <;> rfl

theorem exec_map (f : α → β) (w : Work α) :
    (f <$> w).exec x = ((w.exec x).1.map f, (w.exec x).2) := by
  rw [← bind_pure_comp, exec_bind]
  cases w.exec x with
  | mk a y => cases a <;> rfl

/-- Refused work leaves the tables as they were saved last. -/
theorem exec_undone (w : Work α) :
    w.undone.exec x = match w.exec x with
      | (.ok a, y) => (.ok a, y)
      | (.error fault, y) => (.error fault, { y with working := y.saved }) := by
  obtain ⟨a, y, h⟩ : ∃ a y, w.exec x = (a, y) := ⟨_, _, rfl⟩
  have hw : StateT.run w x = (a, y) := h
  rw [h]
  unfold undone exec
  simp only [tryCatch, tryCatchThe, MonadExceptOf.tryCatch, ExceptT.tryCatch, ExceptT.run_mk,
    StateT.run_bind, hw]
  cases a <;> rfl

end

end Work

/-- **Work in a session of its own**, which is closed in the end: its answer and what is saved. -/
def conduct (s : Store) (w : Work α) : Except Fault α × Store :=
  ((w.exec ⟨s, s⟩).1, (w.exec ⟨s, s⟩).2.saved)

end Gazetteer.Store
