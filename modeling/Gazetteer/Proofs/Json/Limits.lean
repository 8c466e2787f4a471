import Gazetteer.Proofs.Json.RoundTrip

/-!
# Whole numbers in values that are read

A whole number with more digits than are converted is a fault where it stands, however deep.  So a
value that is read has no such number in it.

* `Holds`, `Converts`: the whole numbers in a value, and whether all of them are converted;
* `isScalar_of_mem_tokensFrom`: a literal that is no string holds no further values;
* `Reading.Keeps`: what has been read so far has converted numbers only; `keeps_step`, `keeps_run`;
* `converts_of_readWithin`: so has the value of a text.
-/

namespace Gazetteer.Json

/-- **A whole number stands in a value**, at any depth. -/
inductive Holds (n : Int) : Json → Prop
  | here : Holds n (.int n)
  | item {v : Json} {vs : List Json} (hv : v ∈ vs) (h : Holds n v) : Holds n (.array vs)
  | field {f : String × Json} {fields : List (String × Json)} (hf : f ∈ fields)
      (h : Holds n f.2) : Holds n (.object fields)
  | misnamed {name : List Nat} {v : Json} (h : Holds n v) : Holds n (.misnamed name v)

/-- **Every whole number in a value is converted** if numbers of so many digits are. -/
def Converts (digits : Option Nat) (v : Json) : Prop := ∀ n, Holds n v → IsShort digits n

/-- A value that holds no further values. -/
def IsScalar : Json → Prop
  | .null | .bool _ | .int _ | .real _ => True
  | _ => False

variable {limits : Limits} {digits : Option Nat} {n : Int} {v : Json} {vs : List Json}
  {fields : List (String × Json)} {points : List Nat}

/-! ## Values -/

theorem converts_int_iff : Converts digits (.int n) ↔ IsShort digits n := by
  refine ⟨fun h => h n .here, fun h m hm => ?_⟩
  cases hm
  exact h

theorem converts_array_iff : Converts digits (.array vs) ↔ ∀ v ∈ vs, Converts digits v := by
  refine ⟨fun h v hv n hn => h n (.item hv hn), fun h n hn => ?_⟩
  cases hn with
  | item hv hn => exact h _ hv n hn

theorem converts_object_iff :
    Converts digits (.object fields) ↔ ∀ f ∈ fields, Converts digits f.2 := by
  refine ⟨fun h f hf n hn => h n (.field hf hn), fun h n hn => ?_⟩
  cases hn with
  | field hf hn => exact h _ hf n hn

theorem converts_ofPoints (points : List Nat) : Converts digits (ofPoints points) := by
  unfold ofPoints
  split
  · exact nofun
  · exact nofun

theorem Converts.named (h : Converts digits v) : Converts digits (named points v) := by
  unfold Json.named
  split
  · intro n hn
    cases hn with
    | misnamed hn => exact h n hn
  · exact h

/-- A scalar with which nothing is wrong. -/
theorem converts_of_isScalar (hv : IsScalar v) (h : limits.problem? v = none) :
    Converts limits.digits v := by
  intro n hn
  cases hn with
  | here =>
    rw [Limits.problem?, Option.map_eq_none_iff, Option.filter_eq_none_iff] at h
    intro greatest hgreatest
    simpa using h greatest hgreatest
  | item _ _ => exact hv.elim
  | field _ _ => exact hv.elim
  | misnamed _ => exact hv.elim

theorem forall_mem_put {P : Json → Prop} {name : String} (hv : P v)
    (hfields : ∀ f ∈ fields, P f.2) : ∀ f ∈ put name v fields, P f.2 := by
  induction fields with
  | nil => exact List.forall_mem_singleton.mpr hv
  | cons g fields ih =>
    obtain ⟨hg, hfields⟩ := List.forall_mem_cons.mp hfields
    rw [put]
    split
    · exact List.forall_mem_cons.mpr ⟨hv, hfields⟩
    · exact List.forall_mem_cons.mpr ⟨hg, ih hfields⟩

theorem converts_addField (hfields : ∀ f ∈ fields, Converts digits f.2) (hv : Converts digits v) :
    ∀ f ∈ addField points v fields, Converts digits f.2 :=
  forall_mem_put hv.named hfields

/-! ## Tokens -/

theorem isScalar_of_numberLiteral? {cs : List Char} {length : Nat}
    (h : numberLiteral? cs = some (.scalar v, length)) : IsScalar v := by
  unfold numberLiteral? at h
  extract_lets at h
  split at h
  · cases h
  · split at h
    · cases h
      trivial
    · split at h <;> obtain ⟨hv, -⟩ := Prod.mk.inj (Option.some.inj h) <;> cases hv <;> trivial

theorem isScalar_of_wordLiteral? {cs : List Char} {length : Nat}
    (h : wordLiteral? cs = some (.scalar v, length)) : IsScalar v := by
  obtain ⟨w, hw, heq⟩ := Option.map_eq_some_iff.mp h
  have hwords : ∀ w ∈ words, IsScalar w.2 := by simp [words, IsScalar]
  cases heq
  exact hwords w (List.mem_of_find?_eq_some hw)

/-- **A literal that is no string is a scalar.** -/
theorem isScalar_of_tokenAt {c : Char} {cs : List Char} (h : (tokenAt c cs).1 = .scalar v) :
    IsScalar v := by
  unfold tokenAt at h
  split at h
  case h_7 => split at h <;> cases h
  case h_8 =>
    split at h
    · next hfound =>
      exact isScalar_of_wordLiteral? (hfound.trans (congrArg some (Prod.ext h rfl)))
    · cases hnumber : numberLiteral? (c :: cs) with
      | none => rw [hnumber] at h; cases h
      | some found =>
        rw [hnumber] at h
        exact isScalar_of_numberLiteral? (hnumber.trans (congrArg some (Prod.ext h rfl)))
  all_goals cases h

theorem isScalar_of_mem_tokensFrom {skip offset at_ : Nat} {cs : List Char}
    (h : (at_, .scalar v) ∈ tokensFrom skip offset cs) : IsScalar v := by
  induction cs generalizing skip offset with
  | nil => cases h
  | cons c cs ih =>
    rw [tokensFrom] at h
    split_ifs at h
    · exact ih h
    · exact ih h
    · rcases List.mem_cons.mp h with heq | hmem
      · exact isScalar_of_tokenAt (Prod.mk.inj heq).2.symm
      · exact ih hmem

/-! ## Readings -/

/-- What has been read of an open value has converted numbers only. -/
def Frame.Keeps (digits : Option Nat) : Frame → Prop
  | .items before => ∀ v ∈ before, Converts digits v
  | .field before _ => ∀ f ∈ before, Converts digits f.2

/-- **What has been read so far has converted numbers only.** -/
def Reading.Keeps (digits : Option Nat) : Reading → Prop
  | .value open_ | .firstItem open_ | .firstName open_ => ∀ f ∈ open_, f.Keeps digits
  | .name before open_ | .colon before _ open_ =>
    (∀ f ∈ before, Converts digits f.2) ∧ ∀ f ∈ open_, f.Keeps digits
  | .after v open_ => Converts digits v ∧ ∀ f ∈ open_, f.Keeps digits

theorem keeps_startValue {offset : Nat} {outer : List Frame} {t : Token} {next : Reading}
    (ht : ∀ v, t = .scalar v → IsScalar v) (h : startValue limits offset outer t = .ok next)
    (hkeeps : ∀ f ∈ outer, f.Keeps limits.digits) : next.Keeps limits.digits := by
  unfold startValue at h
  split at h
  · split_ifs at h
    cases h
    exact hkeeps
  · split_ifs at h
    cases h
    exact hkeeps
  · next v =>
    split at h
    · cases h
    · next hproblem =>
      cases h
      exact ⟨converts_of_isScalar (ht v rfl) hproblem, hkeeps⟩
  · cases h
    exact ⟨converts_ofPoints _, hkeeps⟩
  · cases h
  · cases h

theorem keeps_startName {offset : Nat} {before : List (String × Json)} {open_ : List Frame}
    {t : Token} {next : Reading} (h : startName offset before open_ t = .ok next)
    (hbefore : ∀ f ∈ before, Converts digits f.2) (hkeeps : ∀ f ∈ open_, f.Keeps digits) :
    next.Keeps digits := by
  unfold startName at h
  split at h <;> cases h
  exact ⟨hbefore, hkeeps⟩

/-- **A token adds converted numbers only.** -/
theorem keeps_step {offset : Nat} {reading next : Reading} {t : Token}
    (ht : ∀ v, t = .scalar v → IsScalar v) (h : step limits offset reading t = .ok next)
    (hkeeps : reading.Keeps limits.digits) : next.Keeps limits.digits := by
  unfold step at h
  split at h
  · exact keeps_startValue ht h hkeeps
  · cases h
    exact ⟨converts_array_iff.mpr nofun, hkeeps⟩
  · exact keeps_startValue ht h (List.forall_mem_cons.mpr ⟨nofun, hkeeps⟩)
  · cases h
    exact ⟨converts_object_iff.mpr nofun, hkeeps⟩
  · exact keeps_startName h nofun hkeeps
  · exact keeps_startName h hkeeps.1 hkeeps.2
  · cases h
    exact List.forall_mem_cons.mpr hkeeps
  · cases h
  -- a complete value goes to the value around it, which goes on or is complete as well
  · next v before open_ =>
    obtain ⟨hv, hopen⟩ := hkeeps
    obtain ⟨hbefore, hopen⟩ := List.forall_mem_cons.mp hopen
    cases h
    exact List.forall_mem_cons.mpr
      ⟨List.forall_mem_append.mpr ⟨hbefore, List.forall_mem_singleton.mpr hv⟩, hopen⟩
  · next v before open_ =>
    obtain ⟨hv, hopen⟩ := hkeeps
    obtain ⟨hbefore, hopen⟩ := List.forall_mem_cons.mp hopen
    cases h
    exact ⟨converts_array_iff.mpr
      (List.forall_mem_append.mpr ⟨hbefore, List.forall_mem_singleton.mpr hv⟩), hopen⟩
  · next v before name open_ =>
    obtain ⟨hv, hopen⟩ := hkeeps
    obtain ⟨hbefore, hopen⟩ := List.forall_mem_cons.mp hopen
    cases h
    exact ⟨converts_addField hbefore hv, hopen⟩
  · next v before name open_ =>
    obtain ⟨hv, hopen⟩ := hkeeps
    obtain ⟨hbefore, hopen⟩ := List.forall_mem_cons.mp hopen
    cases h
    exact ⟨converts_object_iff.mpr (converts_addField hbefore hv), hopen⟩
  · cases h
  · cases h

/-- **So does a row of tokens**, by induction on it. -/
theorem keeps_run {reading next : Reading} {ts : List (Nat × Token)}
    (hts : ∀ offset v, (offset, .scalar v) ∈ ts → IsScalar v)
    (h : run limits reading ts = .ok next) (hkeeps : reading.Keeps limits.digits) :
    next.Keeps limits.digits := by
  induction ts generalizing reading with
  | nil =>
    cases h
    exact hkeeps
  | cons t ts ih =>
    obtain ⟨offset, t⟩ := t
    rw [run] at h
    split at h
    · next middle hstep =>
      refine ih (fun offset v hv => hts offset v (List.mem_cons_of_mem _ hv)) h
        (keeps_step (fun v hv => hts offset v ?_) hstep hkeeps)
      rw [hv]
      exact List.mem_cons_self
    · cases h

/-- **A value that is read has converted numbers only.** -/
theorem converts_of_readWithin {s : String} (h : readWithin limits s = .ok v) :
    Converts limits.digits v := by
  unfold readWithin at h
  split at h
  · next reading hrun =>
    have hkeeps := keeps_run (fun _ _ hv => isScalar_of_mem_tokensFrom hv) hrun nofun
    unfold finish at h
    split at h <;> cases h
    exact hkeeps.1
  · cases h

end Gazetteer.Json
