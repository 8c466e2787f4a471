import Gazetteer.Validation.Issue

/-!
# Values and everything that is wrong with them

The parts of a record are checked independently of each other, and all issues are reported, in the
order of the fields.  `Checked` is therefore not a monad: its results are put together by `<*>`,
which keeps the issues of both sides.

* `seq_eq_ok_iff`: a whole is accepted if and only if all its parts are;
* `map_eq_ok_iff`, `under_eq_ok_iff`: neither a function nor a path changes what is accepted;
* `all_eq_ok_iff`: a list is accepted if and only if all its items are.
-/

namespace Gazetteer.Validation

/-- **A value, or everything that is wrong with it.** -/
inductive Checked (α : Type) where
  | ok (value : α)
  | faulty (issues : List Issue)
  deriving Repr

namespace Checked

/-- One thing that is wrong, with the value itself. -/
def refuse (cause : Cause) (input : Json) : Checked α := .faulty [⟨[], cause, input⟩]

def map (f : α → β) : Checked α → Checked β
  | .ok x => .ok (f x)
  | .faulty issues => .faulty issues

/-- A function applied to an argument; the issues of both are kept. -/
def seq (f : Checked (α → β)) (x : Checked α) : Checked β :=
  match f, x with
  | .ok f, .ok x => .ok (f x)
  | .ok _, .faulty issues => .faulty issues
  | .faulty issues, .ok _ => .faulty issues
  | .faulty issues, .faulty more => .faulty (issues ++ more)

instance : Applicative Checked where
  pure := .ok
  map := map
  seq f x := seq f (x ())

/-- A further check of an accepted value. -/
def andThen (x : Checked α) (f : α → Checked β) : Checked β :=
  match x with
  | .ok x => f x
  | .faulty issues => .faulty issues

/-- The issues of a part as issues of the whole. -/
def under (step : Step) : Checked α → Checked α
  | .ok x => .ok x
  | .faulty issues => .faulty (issues.map (·.under step))

/-- The items of a list, each under its place. -/
def allFrom (f : β → Checked α) (place : Nat) : List β → Checked (List α)
  | [] => .ok []
  | y :: ys => List.cons <$> (f y).under (.item place) <*> allFrom f (place + 1) ys

/-- **All items of a list.** -/
def all (f : β → Checked α) (ys : List β) : Checked (List α) := allFrom f 0 ys

/-- The value, or the refusal of a record of the given kind. -/
def toExcept (kind : String) : Checked α → Except Rejection α
  | .ok x => .ok x
  | .faulty issues => .error ⟨kind, issues⟩

/-- The accepted value. -/
def toOption : Checked α → Option α
  | .ok x => some x
  | .faulty _ => none

/-- Everything that is wrong. -/
def issues : Checked α → List Issue
  | .ok _ => []
  | .faulty issues => issues

theorem refuse_ne_ok {cause : Cause} {input : Json} {x : α} : refuse cause input ≠ .ok x := nofun

theorem map_eq_ok_iff {f : α → β} {x : Checked α} {z : β} :
    f <$> x = .ok z ↔ ∃ y, x = .ok y ∧ f y = z := by
  change map f x = _ ↔ _
  cases x <;> simp [map]

/-- **A whole is accepted if and only if all its parts are.** -/
theorem seq_eq_ok_iff {f : Checked (α → β)} {x : Checked α} {z : β} :
    f <*> x = .ok z ↔ ∃ g y, f = .ok g ∧ x = .ok y ∧ g y = z := by
  change seq f x = _ ↔ _
  cases f <;> cases x <;> simp [seq]

theorem andThen_eq_ok_iff {x : Checked α} {f : α → Checked β} {z : β} :
    x.andThen f = .ok z ↔ ∃ y, x = .ok y ∧ f y = .ok z := by
  cases x <;> simp [andThen]

theorem under_eq_ok_iff {step : Step} {x : Checked α} {y : α} :
    x.under step = .ok y ↔ x = .ok y := by
  cases x <;> simp [under]

theorem allFrom_eq_ok_iff {f : β → Checked α} {place : Nat} {ys : List β} {xs : List α} :
    allFrom f place ys = .ok xs ↔ ys.map f = xs.map .ok := by
  induction ys generalizing place xs with
  | nil => cases xs <;> simp [allFrom]
  | cons y ys ih =>
    simp only [allFrom, seq_eq_ok_iff, map_eq_ok_iff, under_eq_ok_iff, ih]
    cases xs with
    | nil => simp
    | cons x xs =>
      simp only [List.map_cons, List.cons.injEq]
      constructor
      · rintro ⟨_, zs, ⟨z, hz, rfl⟩, hzs, h⟩
        simp_all
      · rintro ⟨hx, hxs⟩
        exact ⟨_, xs, ⟨x, hx, rfl⟩, hxs, rfl⟩

/-- **A list is accepted if and only if all its items are.** -/
theorem all_eq_ok_iff {f : β → Checked α} {ys : List β} {xs : List α} :
    all f ys = .ok xs ↔ ys.map f = xs.map .ok := allFrom_eq_ok_iff

end Checked

end Gazetteer.Validation
