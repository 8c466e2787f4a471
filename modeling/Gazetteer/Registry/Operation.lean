import Gazetteer.Registry.Basic

/-!
# Operations on a registry

An `Operation` is one step of a run: the passing of time, a call of the registry with the JSON value
that a client sent, or work on the tables behind the registry's back, of which the cache learns
nothing.

* `Registry.perform`: the answer of an operation and the registry after it;
* `Registry.run`: the answers of a row of operations.
-/

namespace Gazetteer

/-- **A step of a run.** -/
inductive Operation where
  | advance (seconds : Number.Quantity)
  | create (data : Json) (changes : Country.Draft.Changes)
  | update (id : Int) (data : Json) (changes : Country.Draft.Changes)
  | delete (id : Int)
  | get (id : Int)
  | search (data : Json)
  | continents
  | contains (id : Int)
  | isUsed (mark : Store.Mark) (value : String) (excluded : Option Int)
  | check (data : Json) (changes : Country.Draft.Changes) (excluded : Option Int)
  | invalidate (family : String)
  | lifetimes
  /-- Writes a new country straight to the tables; without a commit nothing of it remains. -/
  | createRow (columns : Store.Columns) (commits : Bool)
  | replaceRow (id : Int) (columns : Store.Columns) (commits : Bool)
  | removeRow (id : Int) (commits : Bool)
  | getRow (id : Int)
  | searchRows (data : Json)
  | addCode (countryId : Option Int) (code : Option String) (isPrimary : Bool)
  | dump

/-- **Why an operation fails.** -/
inductive Failure where
  | rejected (rejection : Validation.Rejection)
  | conflicting (conflict : Conflict)
  | faulty (fault : Registry.Fault)

/-- The wording of a failure. -/
def Failure.message : Failure → String
  | .rejected rejection => rejection.message
  | .conflicting conflict => conflict.message
  | .faulty fault => fault.message

/-- **The answer of an operation.** -/
inductive Answer where
  | done
  | truth (b : Bool)
  | number (n : Nat)
  | detail (detail : Option Country.Detail)
  | page (page : Option Country.Page)
  | names (names : Option (List String))
  | lifetimes (lifetimes : Lifetimes)
  /-- A row of the table of countries with its dialling codes. -/
  | row (row : Option (CountryRow × Country.Detail))
  | rowNames (names : List String) (total : Nat)
  | code (row : CodeRow)
  | store (store : Store)

namespace Registry

/-- The draft that a client sent, with changes made to it. -/
def draft (purpose : Country.Purpose) (data : Json) (changes : Country.Draft.Changes) :
    Except Failure Country.Draft :=
  match Country.Draft.readFor purpose data with
  | .ok d => .ok (d.change changes)
  | .error rejection => .error (.rejected rejection)

/-- The request that a client sent. -/
def request (data : Json) : Except Failure Search.Request :=
  ((Search.Request.read data).toExcept Search.Request.kind).mapError .rejected

/-- An answer of the registry as an answer of an operation. -/
def answer (f : α → Answer) (x : Except Fault α × Registry) : Except Failure Answer × Registry :=
  ((x.1.map f).mapError .faulty, x.2)

/-- A refusal of the tables as a failure. -/
def refused (fault : Store.Fault) : Failure := .faulty (.refused fault)

/-- **The answer of an operation and the registry after it.** -/
def perform (r : Registry) : Operation → Except Failure Answer × Registry
  | .advance seconds =>
    match r.advance seconds with
    | .error fault => (.error (.faulty fault), r)
    | .ok r => (.ok .done, r)
  | .create data changes =>
    match draft .creation data changes with
    | .error failure => (.error failure, r)
    | .ok d => answer (.detail ∘ some) (r.create d)
  | .update id data changes =>
    match draft .replacement data changes with
    | .error failure => (.error failure, r)
    | .ok d => answer .detail (r.update id d)
  | .delete id => answer .truth (r.delete id)
  | .get id => answer .detail (r.country id)
  | .search data =>
    match request data with
    | .error failure => (.error failure, r)
    | .ok request => answer .page (r.search request)
  | .continents => answer .names r.continents
  | .contains id => answer .truth (r.contains id, r)
  | .isUsed mark value excluded =>
    answer .truth ((r.store.isUsed mark value excluded).mapError .refused, r)
  | .check data changes excluded =>
    match draft .creation data changes with
    | .error failure => (.error failure, r)
    | .ok d =>
      match r.conflict d excluded with
      | .error fault => (.error (.faulty fault), r)
      | .ok (some conflict) => (.error (.conflicting conflict), r)
      | .ok none => (.ok .done, r)
  | .invalidate family => (.ok (.number (r.invalidate family).1), (r.invalidate family).2)
  | .lifetimes => (.ok (.lifetimes r.lifetimes), r)
  | .createRow columns commits =>
    match r.conduct fun now => Store.Work.create now columns commits with
    | (.error fault, store) => (.error (.faulty fault), { r with store })
    | (.ok row, store) => (.ok (.row (some row)), { r with store })
  | .replaceRow id columns commits =>
    match r.conductOn id fun now => Store.Work.replace now id columns commits with
    | (.error fault, store) => (.error (.faulty fault), { r with store })
    | (.ok row, store) => (.ok (.row row), { r with store })
  | .removeRow id commits =>
    match r.store.conduct (Store.Work.remove id commits) with
    | (.error fault, store) => (.error (refused fault), { r with store })
    | (.ok _, store) => (.ok .done, { r with store })
  | .getRow id =>
    match Store.checkId id with
    | .error fault => (.error (refused fault), r)
    | .ok () => (.ok (.row ((r.store.country? id).map fun row => (row, r.store.detail row))), r)
  | .searchRows data =>
    match request data with
    | .error failure => (.error failure, r)
    | .ok request =>
      (.ok (.rowNames ((r.store.rows request).map (·.name)) (r.store.found request).length), r)
  | .addCode countryId code isPrimary =>
    match r.conduct fun now => Store.Work.addCode now countryId code isPrimary with
    | (.error fault, store) => (.error (.faulty fault), { r with store })
    | (.ok row, store) => (.ok (.code row), { r with store })
  | .dump => (.ok (.store r.store), r)

/-- **The answers of a row of operations**, each with the registry after it.  Between two operations
dead readings are swept out of the cache. -/
def run (r : Registry) : List Operation → List (Except Failure Answer × Registry)
  | [] => []
  | op :: ops =>
    let (answer, after) := r.perform op
    (answer, after.sweep) :: run after.sweep ops

end Registry

end Gazetteer
