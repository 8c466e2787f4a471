import Gazetteer.Proofs.Registry.Step
import Gazetteer.Proofs.Store.Upkeep

/-!
# Asking before writing

Before a draft is written, its values are looked up one after another; when it is written, the
tables demand that no other country has its name or one of its ISO codes.  The two agree: a draft of
which nothing was found does not break a constraint, and one that breaks a constraint was found to.

* `Store.Clash`: another country has a value;
* `conflict_eq`: what is reported is the first clash;
* `create_columns`, `replace_columns`: a write is refused for a clash of keys and nothing else;
* `conflict_agrees`: both together.
-/

namespace Gazetteer

open Number Store

namespace Store

/-! ## Clashes -/

/-- **A country other than the excluded one has a value.** -/
def Clash (s : Store) (excluded : Option Int) (m : Mark × String) : Prop :=
  match m.1 with
  | .name => ∃ c ∈ s.countries, some c.id ≠ excluded ∧ c.name = m.2
  | .iso2 => ∃ c ∈ s.countries, some c.id ≠ excluded ∧ c.iso2 = m.2
  | .iso3 => ∃ c ∈ s.countries, some c.id ≠ excluded ∧ c.iso3 = m.2
  | .countryCode => ∃ c ∈ s.codes, some c.countryId ≠ excluded ∧ c.code = m.2

theorem hasMark_iff {s : Store} {excluded : Option Int} {m : Mark × String} :
    s.hasMark m.1 m.2 excluded ↔ s.Clash excluded m := by
  obtain ⟨mark, value⟩ := m
  cases mark <;> simp [hasMark, Clash, and_comm]

theorem hasMark_eq_false_iff {s : Store} {excluded : Option Int} {m : Mark × String} :
    s.hasMark m.1 m.2 excluded = false ↔ ¬s.Clash excluded m := by
  rw [← hasMark_iff, Bool.not_eq_true]

/-- A refusal by a constraint of the tables. -/
def Fault.breaksConstraint : Fault → Bool
  | .absent _ | .taken _ | .noCountry => true
  | .outOfRange => false

end Store

/-- The values that have to be unlike those of all other countries, in the order in which they are
looked up. -/
def Country.Fields.keys (f : Country.Fields) : List (Mark × String) :=
  [(.name, f.name), (.iso2, f.iso2), (.iso3, f.iso3)]

section
variable {s : Store} {f : Country.Fields} {excluded : Option Int}

/-! ## What is reported -/

theorem firstUsed_eq (h : excluded.all fits) (ms : List (Mark × String)) :
    firstUsed s excluded ms =
      .ok ((ms.find? fun m => s.hasMark m.1 m.2 excluded).map fun m => ⟨m.1, m.2⟩) := by
  induction ms with
  | nil => rfl
  | cons m ms ih =>
    simp only [firstUsed, isUsed, h, if_true, ok_bind, List.find?_cons]
    cases s.hasMark m.1 m.2 excluded with
    | true => rfl
    | false => exact ih

/-- **The first clash is reported.** -/
theorem conflict_eq (h : excluded.all fits) : conflict s f excluded =
    .ok ((f.marks.find? fun m => s.hasMark m.1 m.2 excluded).map fun m => ⟨m.1, m.2⟩) :=
  firstUsed_eq h f.marks

theorem conflict_eq_none_iff (h : excluded.all fits) :
    conflict s f excluded = .ok none ↔ ∀ m ∈ f.marks, ¬s.Clash excluded m := by
  simp [conflict_eq h, hasMark_eq_false_iff]

theorem conflict_eq_some_iff (h : excluded.all fits) {c : Conflict} :
    conflict s f excluded = .ok (some c) ↔ ∃ before after,
      f.marks = before ++ (c.mark, c.value) :: after ∧ s.Clash excluded (c.mark, c.value) ∧
        ∀ m ∈ before, ¬s.Clash excluded m := by
  obtain ⟨mark, value⟩ := c
  rw [conflict_eq h]
  simp only [Except.ok.injEq, Option.map_eq_some_iff, List.find?_eq_some_iff_append, hasMark_iff,
    Bool.not_eq_true', hasMark_eq_false_iff]
  constructor
  · rintro ⟨m, ⟨hm, before, after, hsplit, hbefore⟩, heq⟩
    cases heq
    exact ⟨before, after, hsplit, hm, hbefore⟩
  · rintro ⟨before, after, hsplit, hm, hbefore⟩
    exact ⟨(mark, value), ⟨hm, before, after, hsplit, hbefore⟩, rfl⟩

/-- Nothing clashes, spelled out. -/
theorem forall_not_clash_iff : (∀ m ∈ f.marks, ¬s.Clash excluded m) ↔
    (∀ c ∈ s.countries, some c.id ≠ excluded →
      c.name ≠ f.name ∧ c.iso2 ≠ f.iso2 ∧ c.iso3 ≠ f.iso3) ∧
    ∀ c ∈ s.codes, some c.countryId ≠ excluded → c.code ∉ f.codes := by
  simp only [Country.Fields.marks, List.mem_append, List.mem_cons, List.not_mem_nil, or_false,
    List.mem_map, or_imp, forall_and, forall_eq, Clash, not_exists, not_and, forall_exists_index,
    and_imp, forall_apply_eq_imp_iff₂]
  constructor
  · rintro ⟨⟨hname, hiso2, hiso3⟩, hcodes⟩
    exact ⟨⟨hname, hiso2, hiso3⟩, fun c hc hx hmem => hcodes c.code hmem c hc hx rfl⟩
  · rintro ⟨⟨hname, hiso2, hiso3⟩, hcodes⟩
    exact ⟨⟨hname, hiso2, hiso3⟩, fun code hmem c hc hx heq => hcodes c hc hx (heq ▸ hmem)⟩

/-- **A conflict about a key is reported** if one of the keys clashes: they are looked up first. -/
theorem conflict_key_iff (h : excluded.all fits) :
    (∃ c : Conflict, conflict s f excluded = .ok (some c) ∧ c.mark ≠ .countryCode) ↔
      ∃ m ∈ f.keys, s.Clash excluded m := by
  have hmarks : f.marks = f.keys ++ f.codes.map (.countryCode, ·) := rfl
  rw [conflict_eq h, hmarks, List.find?_append]
  cases hfind : f.keys.find? fun m => s.hasMark m.1 m.2 excluded with
  | some m =>
    have hclash : s.Clash excluded m := hasMark_iff.mp (by simpa using List.find?_some hfind)
    have hmem := List.mem_of_find?_eq_some hfind
    have hkey : m.1 ≠ .countryCode := by
      simp only [Country.Fields.keys, List.mem_cons, List.not_mem_nil, or_false] at hmem
      rcases hmem with rfl | rfl | rfl <;> nofun
    exact iff_of_true ⟨⟨m.1, m.2⟩, rfl, hkey⟩ ⟨m, hmem, hclash⟩
  | none =>
    refine iff_of_false ?_ ?_
    · rintro ⟨c, hc, hkey⟩
      simp only [Option.none_or, Except.ok.injEq, Option.map_eq_some_iff] at hc
      obtain ⟨m, hm, rfl⟩ := hc
      obtain ⟨code, -, rfl⟩ := List.mem_map.mp (List.mem_of_find?_eq_some hm)
      exact hkey rfl
    · rintro ⟨m, hmem, hclash⟩
      exact List.find?_eq_none.mp hfind m hmem (hasMark_iff.mpr hclash)

end

/-! ## What is refused -/

namespace Store

/-- Another row of the table has one of the keys. -/
theorem isTaken_iff {s : Store} {id : Int} {f : Country.Fields} :
    (s.isTaken id (·.iso3) f.iso3 ∨ s.isTaken id (·.iso2) f.iso2 ∨ s.isTaken id (·.name) f.name) ↔
      ∃ m ∈ f.keys, s.Clash (some id) m := by
  simp only [isTaken, List.any_eq_true, Country.Fields.keys, List.mem_cons, List.not_mem_nil,
    or_false, exists_eq_or_imp, exists_eq_left, Clash]
  simp only [decide_not, Bool.and_eq_true, Bool.not_eq_true', decide_eq_false_iff_not,
    decide_eq_true_eq, ne_eq, Option.some.injEq]
  constructor
  · rintro (h | h | h)
    · exact Or.inr (Or.inr h)
    · exact Or.inr (Or.inl h)
    · exact Or.inl h
  · rintro (h | h | h)
    · exact Or.inr (Or.inr h)
    · exact Or.inr (Or.inl h)
    · exact Or.inl h

/-- **The row of a draft** is refused if one of its keys clashes, and for nothing else. -/
theorem countryRow_columns (s : Store) (id : Int) (created modified : Instant)
    (f : Country.Fields) :
    (∃ row, s.countryRow id created modified (columns f) = .ok row ∧
      ¬∃ m ∈ f.keys, s.Clash (some id) m) ∨
    ∃ column, s.countryRow id created modified (columns f) = .error (.taken column) ∧
      ∃ m ∈ f.keys, s.Clash (some id) m := by
  rw [← isTaken_iff]
  simp only [countryRow, columns, present, ok_bind, free]
  cases h₃ : s.isTaken id (·.iso3) f.iso3 with
  | true => exact Or.inr ⟨.iso3, rfl, Or.inl rfl⟩
  | false =>
    cases h₂ : s.isTaken id (·.iso2) f.iso2 with
    | true => exact Or.inr ⟨.iso2, rfl, Or.inr (Or.inl rfl)⟩
    | false =>
      cases h₁ : s.isTaken id (·.name) f.name with
      | true => exact Or.inr ⟨.name, rfl, Or.inr (Or.inr rfl)⟩
      | false => exact Or.inl ⟨_, rfl, by simp⟩

/-- No row has the number of the next one: for a clash it need not be excluded. -/
theorem clash_nextId_iff {s : Store} {f : Country.Fields} :
    (∃ m ∈ f.keys, s.Clash (some (nextId (s.countries.map (·.id)))) m) ↔
      ∃ m ∈ f.keys, s.Clash none m := by
  have hnew : ∀ c ∈ s.countries, some c.id ≠ some (nextId (s.countries.map (·.id))) :=
    fun c hc heq => id_ne_nextId hc (Option.some.inj heq)
  have hiff : ∀ m ∈ f.keys,
      (s.Clash (some (nextId (s.countries.map (·.id)))) m ↔ s.Clash none m) := by
    intro m hm
    simp only [Country.Fields.keys, List.mem_cons, List.not_mem_nil, or_false] at hm
    rcases hm with rfl | rfl | rfl
    all_goals
      refine exists_congr fun c => and_congr_right fun hc => and_congr_left fun _ => ?_
      exact iff_of_true (hnew c hc) nofun
  exact exists_congr fun m => and_congr_right fun hm => hiff m hm

/-- **A new country** is refused if one of its keys clashes, and for nothing else. -/
theorem create_columns (s : Store) (now : Instant) (f : Country.Fields) :
    (∃ x, s.create now (columns f) = .ok x ∧ ¬∃ m ∈ f.keys, s.Clash none m) ∨
    ∃ column, s.create now (columns f) = .error (.taken column) ∧
      ∃ m ∈ f.keys, s.Clash none m := by
  rw [← clash_nextId_iff]
  unfold Store.create
  rcases s.countryRow_columns (nextId (s.countries.map (·.id))) now now f with
    ⟨row, hrow, hclash⟩ | ⟨column, hrow, hclash⟩
  · have hrows := codeRows_map_some (nextId (s.codes.map (·.id))) row.id now true f.codes
    rw [hrow]
    exact Or.inl ⟨_, by simp only [ok_bind, columns, hrows]; rfl, hclash⟩
  · rw [hrow]
    exact Or.inr ⟨column, rfl, hclash⟩

/-- **So are new values for a country**, its own values not counting. -/
theorem replace_columns {s : Store} {id : Int} (h : s.contains id = .ok true) (now : Instant)
    (f : Country.Fields) :
    (∃ x, s.replace now id (columns f) = .ok (some x) ∧ ¬∃ m ∈ f.keys, s.Clash (some id) m) ∨
    ∃ column, s.replace now id (columns f) = .error (.taken column) ∧
      ∃ m ∈ f.keys, s.Clash (some id) m := by
  obtain ⟨_, hfits, hsome⟩ := bind_eq_ok_iff.mp h
  obtain ⟨old, hold⟩ := Option.isSome_iff_exists.mp (Except.ok.inj hsome)
  unfold Store.replace
  rw [hfits, hold]
  rcases s.countryRow_columns id old.created now f with
    ⟨row, hrow, hclash⟩ | ⟨column, hrow, hclash⟩
  · have hrows := codeRows_map_some
      (nextId ((s.codes.filter (·.countryId ≠ id)).map (·.id))) id now true f.codes
    simp only [ok_bind, hrow]
    exact Or.inl ⟨_, by simp only [columns, hrows, ok_bind]; rfl, hclash⟩
  · simp only [ok_bind, hrow]
    exact Or.inr ⟨column, rfl, hclash⟩

end Store

/-! ## Both together -/

namespace Registry

/-- A write is refused by a constraint of the tables. -/
def BreaksConstraint {α : Type} (x : Except Fault α) : Prop :=
  ∃ fault : Store.Fault, x = .error (.refused fault) ∧ fault.breaksConstraint

section
variable {r : Registry} {d : Country.Draft}

theorem conflict_eq_ok_iff {excluded : Option Int} {o : Option Conflict} :
    r.conflict d excluded = .ok o ↔ Gazetteer.conflict r.store d.fields excluded = .ok o := by
  unfold Registry.conflict
  cases Gazetteer.conflict r.store d.fields excluded <;> simp [Except.mapError]

theorem ne_refused_of_now {fault : Fault} (h : r.now = .error fault) (f : Store.Fault) :
    fault ≠ .refused f := by
  unfold now at h
  cases hi : Instant.ofClock r.clock with
  | error f =>
    rw [hi] at h
    cases h
    nofun
  | ok t =>
    rw [hi] at h
    cases h

/-- A new country breaks a constraint if one of its keys clashes and the time can be told. -/
theorem create_breaks_iff : BreaksConstraint (r.create d).1 ↔
    (∃ now, r.now = .ok now) ∧ ∃ m ∈ d.fields.keys, r.store.Clash none m := by
  rw [create_eq]
  cases hnow : r.now with
  | error fault => simp [BreaksConstraint, ne_refused_of_now hnow]
  | ok now =>
    rcases r.store.create_columns now d.fields with ⟨x, hx, hclash⟩ | ⟨column, hx, hclash⟩
    · simp [hx, BreaksConstraint, hclash]
    · simp only [hx]
      exact iff_of_true ⟨.taken column, rfl, rfl⟩ ⟨⟨now, rfl⟩, hclash⟩

theorem contains_eq_ok_iff {id : Int} {b : Bool} :
    r.contains id = .ok b ↔ r.store.contains id = .ok b := by
  unfold Registry.contains
  cases r.store.contains id <;> simp [Except.mapError]

/-- And so do new values for a country that exists. -/
theorem update_breaks_iff {id : Int} (hid : r.contains id = .ok true) :
    BreaksConstraint (r.update id d).1 ↔
      (∃ now, r.now = .ok now) ∧ ∃ m ∈ d.fields.keys, r.store.Clash (some id) m := by
  rw [update_eq, hid]
  cases hnow : r.now with
  | error fault => simp [BreaksConstraint, ne_refused_of_now hnow]
  | ok now =>
    rcases replace_columns (contains_eq_ok_iff.mp hid) now d.fields with
      ⟨x, hx, hclash⟩ | ⟨column, hx, hclash⟩
    · simp [hx, BreaksConstraint, hclash]
    · simp only [hx]
      exact iff_of_true ⟨.taken column, rfl, rfl⟩ ⟨⟨now, rfl⟩, hclash⟩

/-- A name or an ISO code is reported. -/
def ReportsKey (r : Registry) (d : Country.Draft) (excluded : Option Int) : Prop :=
  ∃ c, r.conflict d excluded = .ok (some c) ∧ c.mark ∈ [Mark.name, .iso2, .iso3]

theorem reportsKey_iff {excluded : Option Int} (h : excluded.all fits) :
    r.ReportsKey d excluded ↔ ∃ m ∈ d.fields.keys, r.store.Clash excluded m := by
  rw [← conflict_key_iff h]
  simp only [ReportsKey, conflict_eq_ok_iff]
  refine exists_congr fun c => and_congr_right fun _ => ?_
  cases c.mark <;> decide

theorem fits_of_contains {id : Int} (h : r.contains id = .ok true) : (some id).all fits := by
  obtain ⟨_, hcheck, -⟩ := bind_eq_ok_iff.mp (contains_eq_ok_iff.mp h)
  exact fits_of_checkId hcheck

end

/-- **What is reported before a write agrees with what the write is refused for.**  If a country or
a dialling code other than those of the excluded country has a value of the draft, the first such
value is reported.  A write of the draft, at a time that can be told, breaks a constraint if and
only if a name or an ISO code is reported; and if nothing is reported, it does not at any time. -/
theorem conflict_agrees (r : Registry) (d : Country.Draft) {excluded : Option Int}
    (hx : excluded.all fits) :
    (r.conflict d excluded = .ok none ↔
      (∀ c ∈ r.store.countries, some c.id ≠ excluded →
        c.name ≠ d.fields.name ∧ c.iso2 ≠ d.fields.iso2 ∧ c.iso3 ≠ d.fields.iso3) ∧
      ∀ c ∈ r.store.codes, some c.countryId ≠ excluded → c.code ∉ d.fields.codes) ∧
    (r.conflict d excluded ≠ .ok none → ∃ c before after,
      r.conflict d excluded = .ok (some c) ∧
        d.fields.marks = before ++ (c.mark, c.value) :: after ∧
        r.store.Clash excluded (c.mark, c.value) ∧ ∀ m ∈ before, ¬r.store.Clash excluded m) ∧
    ((∃ now, r.now = .ok now) →
      (BreaksConstraint (r.create d).1 ↔ r.ReportsKey d none) ∧
      ∀ id, r.contains id = .ok true →
        (BreaksConstraint (r.update id d).1 ↔ r.ReportsKey d (some id))) ∧
    (r.conflict d none = .ok none → ¬BreaksConstraint (r.create d).1) ∧
    ∀ id, r.contains id = .ok true → r.conflict d (some id) = .ok none →
      ¬BreaksConstraint (r.update id d).1 := by
  have hunreported : ∀ {excluded : Option Int}, r.conflict d excluded = .ok none →
      ¬r.ReportsKey d excluded := by
    rintro excluded hnone ⟨c, hc, -⟩
    rw [hnone] at hc
    cases hc
  refine ⟨?_, fun hsome => ?_, fun hnow => ⟨?_, fun id hid => ?_⟩, fun hnone => ?_,
    fun id hid hnone => ?_⟩
  · rw [conflict_eq_ok_iff, conflict_eq_none_iff hx, forall_not_clash_iff]
  · have hex : ∃ o, Gazetteer.conflict r.store d.fields excluded = .ok o := ⟨_, conflict_eq hx⟩
    obtain ⟨_ | c, hc⟩ := hex
    · exact absurd (conflict_eq_ok_iff.mpr hc) hsome
    · obtain ⟨before, after, hsplit, hclash, hbefore⟩ := (conflict_eq_some_iff hx).mp hc
      exact ⟨c, before, after, conflict_eq_ok_iff.mpr hc, hsplit, hclash, hbefore⟩
  · rw [create_breaks_iff, reportsKey_iff rfl]
    exact and_iff_right hnow
  · rw [update_breaks_iff hid, reportsKey_iff (fits_of_contains hid)]
    exact and_iff_right hnow
  · rw [create_breaks_iff, ← reportsKey_iff rfl]
    exact fun h => hunreported hnone h.2
  · rw [update_breaks_iff hid, ← reportsKey_iff (fits_of_contains hid)]
    exact fun h => hunreported hnone h.2

/-- A registry with one country. -/
def oneCountry : Registry :=
  ⟨⟨[⟨1, "France", "Europe", "FR", "FRA", 0, 0⟩], [⟨1, 1, "33", true, 0, 0⟩]⟩, .empty 1 true, 0,
    ⟨60, 60⟩⟩

/-- The same country in other letters. -/
def sameCountry : Country.Draft := ⟨" France ", "Europe", ["33"], "fr", "fra"⟩

/-- The country is in its own way when it is created again, but not when it is replaced. -/
theorem conflict_agrees_oneCountry :
    (some 1).all fits ∧ (∃ now, oneCountry.now = .ok now) ∧ oneCountry.contains 1 = .ok true ∧
      oneCountry.conflict sameCountry (some 1) = .ok none ∧
      BreaksConstraint (oneCountry.create sameCountry).1 ∧
      ¬BreaksConstraint (oneCountry.update 1 sameCountry).1 := by
  have hfits : (some 1).all fits := rfl
  have hnow : ∃ now, oneCountry.now = .ok now := ⟨0, rfl⟩
  have hcontains : oneCountry.contains 1 = .ok true := rfl
  have hreported : oneCountry.ReportsKey sameCountry none :=
    ⟨⟨.name, "France"⟩, by decide +kernel, by decide⟩
  have hnone : oneCountry.conflict sameCountry (some 1) = .ok none := by decide +kernel
  obtain ⟨-, -, hbreaks, -, hreplaced⟩ := conflict_agrees oneCountry sameCountry hfits
  exact ⟨hfits, hnow, hcontains, hnone, (hbreaks hnow).1.mpr hreported,
    hreplaced 1 hcontains hnone⟩

end Registry

end Gazetteer
