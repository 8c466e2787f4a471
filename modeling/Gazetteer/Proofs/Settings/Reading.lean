import Gazetteer.Proofs.Json.Fields
import Gazetteer.Proofs.Store.Session
import Gazetteer.Settings.Reader

/-!
# One setting more

The settings are checked one by one, so that one which is given beside other settings changes
nothing about these, whether it is given as an argument or in the environment.

* `setting_of_adds`, `setting_of_given`: a setting beside another one;
* `ofFields_eq_ok_iff`: all settings at once; `ofFields_of_adds`: with other origins;
* `fromEnvironment_cons`: what the environment gives with one text more;
* `exists_adds_argument`, `exists_adds_environment`: the fields that are read with one more;
* `read_argument`, `read_environment`: the settings that are read with other origins.
-/

namespace Gazetteer.Settings

open Validation

variable {v : Json} {before after fields : List (String × Json)} {s : Settings}
  {arguments : List (String × Json)} {environment : List (String × String)} {name text : String}

theorem setting_of_adds {α : Type} (h : Json.Adds name v before after)
    (other : String) (default : α) (rule : Json → Checked α) (hn : other ≠ name) :
    setting other default rule after = setting other default rule before := by
  unfold setting withDefault Json.firstField?
  rw [List.findSome?_cons, List.findSome?_cons, h.others other hn]
  rfl

theorem setting_of_given {α : Type} (h : Json.Adds name v before after)
    (default : α) (rule : Json → Checked α) :
    setting name default rule after = (rule v).under (.field name) := by
  unfold setting withDefault Json.firstField?
  rw [List.findSome?_cons, h.given]
  rfl

theorem knownOnly_eq_ok_iff {fields : List (String × Json)} : knownOnly fields = .ok () ↔
    ∀ n ∈ fields.map (·.1), n ∈ names ++ lookupNames := by
  induction fields with
  | nil => simp [knownOnly]
  | cons f fields ih =>
    obtain ⟨n, w⟩ := f
    rw [knownOnly]
    split
    · next hn =>
      have hn' : n ∈ names ++ lookupNames := by simpa using hn
      rw [ih, List.map_cons, List.forall_mem_cons, and_iff_right hn']
    · next hn =>
      have hn' : n ∉ names ++ lookupNames := by simpa using hn
      refine iff_of_false ?_ fun h => hn' (h n List.mem_cons_self)
      rw [Checked.seq_eq_ok_iff]
      rintro ⟨_, _, h, -⟩
      obtain ⟨_, h, -⟩ := Checked.map_eq_ok_iff.mp h
      exact Checked.refuse_ne_ok (Checked.under_eq_ok_iff.mp h)

/-- One more setting is known if it has the name of one. -/
theorem knownOnly_of_adds (h : Json.Adds name v before after) (hn : name ∈ names)
    (hbefore : knownOnly before = .ok ()) : knownOnly after = .ok () := by
  rw [knownOnly_eq_ok_iff] at hbefore ⊢
  intro n hmem
  rcases h.names n hmem with rfl | hmem
  · exact List.mem_append_left _ hn
  · exact hbefore n hmem

/-- **All settings are read one by one.** -/
theorem ofFields_eq_ok_iff : ofFields fields = .ok s ↔
    setting "PROJECT_NAME" default.projectName textPoints fields = .ok s.projectName ∧
    setting "API_V1_STR" default.apiPath textPoints fields = .ok s.apiPath ∧
    Database.ofFields fields = .ok s.database ∧
    Retention.ofFields fields = .ok s.retention ∧
    setting originsName default.origins readOrigins fields = .ok s.origins ∧
    Logging.ofFields fields = .ok s.logging ∧
    setting "DEBUG" default.isDebug flag fields = .ok s.isDebug ∧
    knownOnly fields = .ok () := by
  constructor
  · intro h
    simp only [ofFields, Checked.seq_eq_ok_iff, Checked.map_eq_ok_iff] at h
    -- the first of the settings is innermost
    obtain ⟨_, _, ⟨_, ⟨_, _, ⟨_, _, ⟨_, _, ⟨_, _, ⟨_, _, ⟨_, _, ⟨_, hname, rfl⟩, hpath, rfl⟩,
      hdatabase, rfl⟩, hretention, rfl⟩, horigins, rfl⟩, hlogging, rfl⟩, hdebug, rfl⟩, rfl⟩, hknown,
      rfl⟩ := h
    exact ⟨hname, hpath, hdatabase, hretention, horigins, hlogging, hdebug, hknown⟩
  · rintro ⟨hname, hpath, hdatabase, hretention, horigins, hlogging, hdebug, hknown⟩
    rw [ofFields, hname, hpath, hdatabase, hretention, horigins, hlogging, hdebug, hknown]
    rfl

/-- Neither the origins nor the address of the database touch what is kept and what is logged. -/
theorem groups_of_adds (h : Json.Adds name v before after)
    (hn : name = originsName ∨ name = uriName) :
    Retention.ofFields after = Retention.ofFields before ∧
      Logging.ofFields after = Logging.ofFields before := by
  rcases hn with rfl | rfl <;>
    simp (disch := decide) only [Retention.ofFields, Logging.ofFields, setting_of_adds h, and_self]

/-- **One more setting is read beside the others**, and everything that is wrong with it is
reported. -/
theorem ofFields_of_adds (h : Json.Adds originsName v before after) (hs : ofFields before = .ok s) :
    ofFields after = (fun as => { s with origins := as }) <$>
      (readOrigins v).under (.field originsName) := by
  have hdatabase : Database.ofFields after = Database.ofFields before := by
    simp (disch := decide) only [Database.ofFields, setting_of_adds h]
  obtain ⟨hretention, hlogging⟩ := groups_of_adds h (.inl rfl)
  have hname := setting_of_adds h "PROJECT_NAME" default.projectName textPoints (by decide)
  have hpath := setting_of_adds h "API_V1_STR" default.apiPath textPoints (by decide)
  have hdebug := setting_of_adds h "DEBUG" default.isDebug flag (by decide)
  have horigins := setting_of_given h default.origins readOrigins
  obtain ⟨hsName, hsPath, hsDatabase, hsRetention, -, hsLogging, hsDebug, hsKnown⟩ :=
    ofFields_eq_ok_iff.mp hs
  unfold ofFields
  rw [hname, hsName, hpath, hsPath, hdatabase, hsDatabase, hretention, hsRetention, horigins,
    hlogging, hsLogging, hdebug, hsDebug, knownOnly_of_adds h (by decide) hsKnown]
  cases (readOrigins v).under (.field originsName) <;> rfl

/-- What a rule makes of the origins, with the other settings. -/
def withOrigins (s : Settings) (x : Checked (List Address)) : Except Fault Settings :=
  (((fun as => { s with origins := as }) <$> x.under (.field originsName)).toExcept
    kind).mapError .rejected

/-- Settings that are read were not refused. -/
theorem ofFields_of_toExcept
    (h : ((ofFields fields).toExcept kind).mapError Fault.rejected = .ok s) :
    ofFields fields = .ok s := by
  cases hfields : ofFields fields with
  | faulty issues => rw [hfields] at h; cases h
  | ok s' =>
    rw [hfields] at h
    cases h
    rfl

/-! ## Arguments -/

/-- **One argument more is one field more.** -/
theorem exists_adds_argument (hs : read arguments environment = .ok s) (hn : name ∉ lookupNames)
    (ha : ∀ f ∈ arguments, f.1 ≠ name) (hv : ∀ fields, v ≠ .object fields) :
    ∃ before after, Json.Adds name v before after ∧ ofFields before = .ok s ∧
      read ((name, v) :: arguments) environment =
        ((ofFields after).toExcept kind).mapError .rejected := by
  have hother : ∀ n ∈ lookupNames, Json.fieldOf? n ((name, v) :: arguments) =
      Json.fieldOf? n arguments := by
    intro n hmem
    have hne : n ≠ name := fun heq => hn (heq ▸ hmem)
    rw [Json.fieldOf?_cons, if_neg hne]
  have hlookup : Lookup.ofArguments ((name, v) :: arguments) = Lookup.ofArguments arguments := by
    simp (disch := decide) only [Lookup.ofArguments, hother]
  have hmerged : ∀ old : Option Json, (old.map (Json.merged · v)).getD v = v := by
    rintro (_ | old)
    · rfl
    · cases v with
      | object fields => exact absurd rfl (hv fields)
      | _ => simp only [Option.map_some, Json.merged, Option.getD_some]
  unfold read at hs ⊢
  obtain ⟨given, hgiven, hs⟩ := bind_eq_ok_iff.mp hs
  refine ⟨_, _, (Json.adds_put name v given).update ha, ofFields_of_toExcept hs, ?_⟩
  rw [hlookup, hgiven, ok_bind, Json.update_cons, hmerged]

/-- **Origins given as an argument.** -/
theorem read_argument (hs : read arguments environment = .ok s)
    (ha : ∀ f ∈ arguments, f.1 ≠ originsName) (hv : ∀ fields, v ≠ .object fields) :
    read ((originsName, v) :: arguments) environment = withOrigins s (readOrigins v) := by
  obtain ⟨before, after, hadds, hbefore, hread⟩ := exists_adds_argument hs (by decide) ha hv
  rw [hread, ofFields_of_adds hadds hbefore]
  rfl

/-! ## The environment -/

theorem text?_cons (text : String) (he : ∀ e ∈ environment, e.1 ≠ name) (other : String) :
    ({} : Lookup).text? ((name, text) :: environment) other =
      if other = name then some text else ({} : Lookup).text? environment other := by
  have hname : ∀ e : String × String, Lookup.isNameOf {} other e.1 = decide (e.1 = other) := by
    intro e
    simp [Lookup.isNameOf]
  simp only [Lookup.text?, hname, Bool.false_and, Bool.not_false, Bool.and_true, List.reverse_cons,
    List.find?_append]
  split
  · next hn =>
    subst hn
    have hnone : environment.reverse.find? (fun e => decide (e.1 = other)) = none := by
      rw [List.find?_eq_none]
      intro e hm
      simpa using he e (List.mem_reverse.mp hm)
    rw [hnone]
    simp
  · next hn => simp [Ne.symm hn]

theorem text?_eq_none (he : ∀ e ∈ environment, e.1 ≠ name) :
    ({} : Lookup).text? environment name = none := by
  rw [Lookup.text?, Option.map_eq_none_iff, List.find?_eq_none]
  intro e hm
  simp [Lookup.isNameOf, he e (List.mem_reverse.mp hm)]

theorem map_eq_ok_iff {ε α β : Type} {x : Except ε α} {f : α → β} {b : β} :
    x.map f = .ok b ↔ ∃ a, x = .ok a ∧ f a = b := by
  cases x <;> simp [Except.map]

theorem fromEnvironment_of_none {l : Lookup} {name : String} (h : l.text? environment name = none)
    (rest : List String) :
    fromEnvironment l environment (name :: rest) = fromEnvironment l environment rest := by
  rw [fromEnvironment, h]

theorem fromEnvironment_of_some {l : Lookup} {name t : String}
    (h : l.text? environment name = some t) (rest : List String) :
    fromEnvironment l environment (name :: rest) = (valueOfText l name t).bind fun v =>
      match v with
      | none => fromEnvironment l environment rest
      | some v => (fromEnvironment l environment rest).map ((name, v) :: ·) := by
  rw [fromEnvironment, h]
  dsimp only
  cases valueOfText l name t with
  | error fault => rfl
  | ok v =>
    cases v with
    | none => rfl
    | some v => cases fromEnvironment l environment rest <;> rfl

/-- **What the environment gives with one text more**: one setting more, unless the text stands for
none or cannot be read. -/
theorem fromEnvironment_cons (he : ∀ e ∈ environment, e.1 ≠ name) {ns : List String}
    (hns : ns.Nodup) {given : List (String × Json)}
    (h : fromEnvironment {} environment ns = .ok given) :
    (name ∉ ns → fromEnvironment {} ((name, text) :: environment) ns = .ok given) ∧
    (name ∈ ns → ∃ given' : Json → List (String × Json),
      (∀ v, Json.Adds name v given (given' v)) ∧
        fromEnvironment {} ((name, text) :: environment) ns =
          (valueOfText {} name text).map fun v => (v.map given').getD given) := by
  induction ns generalizing given with
  | nil => exact ⟨fun _ => h, fun hm => absurd hm List.not_mem_nil⟩
  | cons n ns ih =>
    obtain ⟨hn, hnodup⟩ := List.nodup_cons.mp hns
    by_cases ho : n = name
    · subst ho
      refine ⟨fun hm => absurd List.mem_cons_self hm, fun _ => ?_⟩
      rw [fromEnvironment_of_none (text?_eq_none he)] at h
      have htext := (text?_cons text he n).trans (if_pos rfl)
      refine ⟨fun v => (n, v) :: given, fun v => Json.adds_cons n v given, ?_⟩
      rw [fromEnvironment_of_some htext, (ih hnodup h).1 hn]
      rcases valueOfText {} n text with _ | (_ | _) <;> rfl
    · have htext := (text?_cons text he n).trans (if_neg ho)
      rw [List.mem_cons, or_iff_right (Ne.symm ho)]
      cases hold : ({} : Lookup).text? environment n with
      | none =>
        rw [hold] at htext
        rw [fromEnvironment_of_none hold] at h
        rw [fromEnvironment_of_none htext]
        exact ih hnodup h
      | some t =>
        rw [hold] at htext
        rw [fromEnvironment_of_some hold] at h
        rw [fromEnvironment_of_some htext]
        obtain ⟨v, hvalue, h⟩ := bind_eq_ok_iff.mp h
        rw [hvalue]
        cases v with
        | none => exact ih hnodup h
        | some w =>
          obtain ⟨given, hrest, rfl⟩ := map_eq_ok_iff.mp h
          obtain ⟨hwithout, hwith⟩ := ih hnodup hrest
          refine ⟨fun hm => ?_, fun hm => ?_⟩
          · simp only [Except.bind, hwithout hm, Except.map]
          · obtain ⟨given', hadds, hgiven'⟩ := hwith hm
            refine ⟨fun v => (n, w) :: given' v, fun v => (hadds v).cons ho _, ?_⟩
            simp only [Except.bind, hgiven']
            rcases valueOfText {} name text with _ | (_ | _) <;> rfl

/-- **One text more in the environment is one field more**, unless it stands for none or cannot be
read. -/
theorem exists_adds_environment (hs : read arguments environment = .ok s)
    (hl : Lookup.ofArguments arguments = {}) (hn : name ∈ names)
    (ha : ∀ f ∈ arguments, f.1 ≠ name) (he : ∀ e ∈ environment, e.1 ≠ name) (text : String) :
    ∃ (before : List (String × Json)) (after : Json → List (String × Json)),
      (∀ v, Json.Adds name v before (after v)) ∧ ofFields before = .ok s ∧
      read arguments ((name, text) :: environment) =
        (valueOfText {} name text).bind fun v => match v with
          | some v => ((ofFields (after v)).toExcept kind).mapError .rejected
          | none => .ok s := by
  unfold read at hs ⊢
  rw [hl] at hs ⊢
  obtain ⟨given, hgiven, hs⟩ := bind_eq_ok_iff.mp hs
  obtain ⟨given', hadds, hgiven'⟩ := (fromEnvironment_cons he (by decide) hgiven).2 hn
  refine ⟨_, fun v => Json.update (given' v) arguments, fun v => (hadds v).update ha,
    ofFields_of_toExcept hs, ?_⟩
  rw [hgiven']
  rcases valueOfText {} name text with _ | (_ | v)
  · rfl
  · exact hs
  · rfl

/-- **Origins given in the environment.** -/
theorem read_environment (hs : read arguments environment = .ok s)
    (hl : Lookup.ofArguments arguments = {}) (ha : ∀ f ∈ arguments, f.1 ≠ originsName)
    (he : ∀ e ∈ environment, e.1 ≠ originsName) :
    read arguments ((originsName, text) :: environment) =
      (originsOfText text).bind fun v => match v with
        | some v => withOrigins s (readOrigins v)
        | none => .ok s := by
  obtain ⟨before, after, hadds, hbefore, hread⟩ :=
    exists_adds_environment hs hl (by decide) ha he text
  have hvalue : valueOfText {} originsName text = originsOfText text := by simp [valueOfText]
  rw [hread, hvalue]
  rcases originsOfText text with _ | (_ | v)
  · rfl
  · rfl
  · simp only [Except.bind, ofFields_of_adds (hadds v) hbefore]
    rfl

end Gazetteer.Settings
