import Gazetteer.Proofs.Country.Draft
import Gazetteer.Proofs.Text.CommaList
import Mathlib.Data.List.Forall2

/-!
# The grammar of drafts

A draft is accepted if and only if it is an object whose fields are of a certain form, which is told
here without the rules that check it: how long the texts are once they are trimmed, where a text of
dialling codes is cut, and of what characters the codes are made.  Texts are taken by their code
points.  Of the two places where half a surrogate pair would meet the demands, the name and the
continent, it is refused all the same, as it makes up no text.

* `IsTrimmed`, `Lists`: the trimmed text and the dialling codes of a value;
* `WellFormed`, `Holds`: the form of the fields, and what is read from them;
* `label_check_iff`, `codes_check_iff`, `letters_check_iff`: the rules field by field;
* `readsGrammar`: the drafts that are accepted; `not_accepted_half`: one whose name is no text.
-/

namespace Gazetteer.Country.Draft

open Text Validation Json

variable {v : Json} {vs : List Json} {s : String} {points : List Nat} {codes : List String}
  {fields : List (String × Json)} {P : Nat → Prop}

/-! ## The grammar -/

/-- **The text that a value is once it is trimmed.** -/
def IsTrimmed (v : Json) (s : String) : Prop :=
  ∃ points trimmed, v.points? = some points ∧ Trims isBlankPoint points trimmed ∧
    s = textOf trimmed

/-- **The dialling codes that a value lists.** -/
inductive Lists : Json → List String → Prop
  /-- A text lists the parts between its commas, trimmed, without the empty ones; -/
  | text {v : Json} {parts trimmed : List (List Nat)} (hne : parts ≠ [])
      (hparts : ∀ part ∈ parts, ','.toNat ∉ part)
      (hv : v.points? = some (joinWith ','.toNat parts))
      (htrims : parts.Forall₂ (Trims isBlankPoint) trimmed) :
      Lists v ((trimmed.filter (· ≠ [])).map textOf)
  /-- an array lists its items, which are texts, trimmed. -/
  | array {vs : List Json} {codes : List String} (h : vs.Forall₂ IsTrimmed codes) :
      Lists (.array vs) codes

/-- **A field with a text** that has, once it is trimmed, at least one and at most so many code
points, which are all of a kind. -/
def HasLabel (P : Nat → Prop) (name : String) (greatest : Nat) (fields : List (String × Json)) :
    Prop :=
  ∃ v points trimmed, fieldOf? name fields = some v ∧ v.points? = some points ∧
    Trims isBlankPoint points trimmed ∧ 1 ≤ trimmed.length ∧ trimmed.length ≤ greatest ∧
    ∀ p ∈ trimmed, P p

/-- So many letters of ASCII. -/
structure IsLetters (length : Nat) (s : String) : Prop where
  length : s.toList.length = length
  letters : ∀ c ∈ s.toList, c.isAlpha

/-- The value from which the dialling codes are taken. -/
def codesOf? (fields : List (String × Json)) : Option Json :=
  (fieldOf? "countryCode" fields).or (fieldOf? "country_codes" fields)

/-- **Fields that describe a country**, the code points of its name and continent being of a
kind. -/
structure WellFormed (P : Nat → Prop) (fields : List (String × Json)) : Prop where
  name : HasLabel P "name" 100 fields
  continent : HasLabel P "continent" 50 fields
  codes : ∃ v codes, codesOf? fields = some v ∧ Lists v codes ∧ codes ≠ [] ∧
    ∀ code ∈ codes, IsDiallingCode code
  iso2 : ∃ s, fieldOf? "iso2" fields = some (.text s) ∧ IsLetters 2 s
  iso3 : ∃ s, fieldOf? "iso3" fields = some (.text s) ∧ IsLetters 3 s

/-- **What is read from the fields**: the name and the continent trimmed, the dialling codes in
their order, and the country codes as they are. -/
structure Holds (fields : List (String × Json)) (d : Draft) : Prop where
  name : ∃ v, fieldOf? "name" fields = some v ∧ IsTrimmed v d.name
  continent : ∃ v, fieldOf? "continent" fields = some v ∧ IsTrimmed v d.continent
  codes : ∃ v, codesOf? fields = some v ∧ Lists v d.codes
  iso2 : fieldOf? "iso2" fields = some (.text d.iso2)
  iso3 : fieldOf? "iso3" fields = some (.text d.iso3)

/-! ## Trimmed texts -/

theorem trimmed_of_points? (h : v.points? = some points) :
    trimmed v = ofPoints (trimPoints points) := by
  cases v with
  | text t =>
    cases h
    rw [trimmed, trimPoints_toNat, ← toList_trim, ofPoints_toNat]
  | torn points =>
    cases h
    rfl
  | _ => cases h

theorem exists_points?_of_trimmed (h : trimmed v = .text s) :
    ∃ points, v.points? = some points := by
  cases v with
  | text t => exact ⟨_, rfl⟩
  | torn points => exact ⟨points, rfl⟩
  | _ => cases h

theorem isTrimmed_iff :
    IsTrimmed v s ↔ ∃ points, v.points? = some points ∧ s = textOf (trimPoints points) := by
  constructor
  · rintro ⟨points, _, hv, htrims, rfl⟩
    exact ⟨points, hv, congrArg textOf htrims.eq_trimBy⟩
  · rintro ⟨points, hv, rfl⟩
    exact ⟨points, _, hv, trims_trimBy _ _, rfl⟩

/-- A text that is not torn is trimmed as texts are. -/
theorem isTrimmed_text_iff {t : String} : IsTrimmed (.text t) s ↔ s = trim t := by
  have hpoints : textOf (trimPoints (t.toList.map Char.toNat)) = trim t := by
    rw [← trim_textOf, textOf_toNat]
  rw [isTrimmed_iff]
  constructor
  · rintro ⟨_, h, rfl⟩
    cases h
    exact hpoints
  · rintro rfl
    exact ⟨_, rfl, hpoints.symm⟩

@[simp] theorem length_toList_textOf (points : List Nat) :
    (textOf points).toList.length = points.length := by
  simp [textOf]

/-- **The names and continents that a rule accepts.** -/
theorem label_check_iff {greatest : Nat} :
    ({ least := 1, greatest := some greatest } : TextRule).check (trimmed v) = .ok s ↔
      ∃ points, v.points? = some points ∧ s = textOf (trimPoints points) ∧
        1 ≤ (trimPoints points).length ∧ (trimPoints points).length ≤ greatest ∧
        ∀ p ∈ trimPoints points, isHalf p = false := by
  rw [TextRule.check_eq_ok_iff, TextRule.fault?_eq_none_iff]
  constructor
  · rintro ⟨htext, hleast, hgreatest, -⟩
    obtain ⟨points, hv⟩ := exists_points?_of_trimmed htext
    rw [trimmed_of_points? hv] at htext
    obtain ⟨hhalf, rfl⟩ := ofPoints_eq_text_iff.mp htext
    rw [length_toList_textOf] at hleast hgreatest
    exact ⟨points, hv, rfl, hleast, hgreatest greatest rfl, hhalf⟩
  · rintro ⟨points, hv, rfl, hleast, hgreatest, hhalf⟩
    rw [trimmed_of_points? hv, length_toList_textOf]
    refine ⟨ofPoints_eq_text_iff.mpr ⟨hhalf, rfl⟩, hleast, fun n hn => ?_, fun p hp => ?_⟩
    · cases hn
      exact hgreatest
    · cases hp

/-! ## Dialling codes -/

theorem codeRule_check_iff : codeRule.check v = .ok s ↔ v = .text s ∧ IsDiallingCode s := by
  rw [TextRule.check_eq_ok_iff, TextRule.fault?_eq_none_iff]
  refine and_congr_right fun _ => ⟨?_, fun h => ?_⟩
  · rintro ⟨hleast, hgreatest, hpattern⟩
    have haccepts := hpattern .dialling rfl
    simp only [Pattern.accepts, Bool.and_eq_true, List.all_eq_true] at haccepts
    exact ⟨hleast, hgreatest 20 rfl, haccepts.2⟩
  · refine ⟨h.least, fun n hn => ?_, fun p hp => ?_⟩
    · cases hn
      exact h.greatest
    · cases hp
      have hne : s.toList ≠ [] := List.ne_nil_of_length_pos h.least
      simpa [Pattern.accepts, hne] using h.dialling

/-- Code points that make up a dialling code make up a text. -/
theorem isHalf_of_isDiallingCode (h : IsDiallingCode (textOf points)) :
    ∀ p ∈ points, isHalf p = false := by
  intro p hp
  by_contra hhalf
  have hmem : Char.ofNat p ∈ (textOf points).toList := by
    rw [textOf, String.toList_ofList]
    exact List.mem_map_of_mem hp
  rw [ofNat_of_isHalf (by simpa using hhalf)] at hmem
  exact absurd (h.dialling _ hmem) (by decide)

theorem codeRule_check_ofPoints_iff :
    codeRule.check (ofPoints points) = .ok s ↔ s = textOf points ∧ IsDiallingCode s := by
  rw [codeRule_check_iff, ofPoints_eq_text_iff]
  constructor
  · rintro ⟨⟨-, hs⟩, h⟩
    exact ⟨hs, h⟩
  · rintro ⟨rfl, h⟩
    exact ⟨⟨isHalf_of_isDiallingCode h, rfl⟩, h⟩

theorem codeRule_check_trimmed_iff :
    codeRule.check (trimmed v) = .ok s ↔ IsTrimmed v s ∧ IsDiallingCode s := by
  rw [isTrimmed_iff]
  constructor
  · intro h
    obtain ⟨points, hv⟩ := exists_points?_of_trimmed (codeRule_check_iff.mp h).1
    rw [trimmed_of_points? hv] at h
    obtain ⟨hs, hcode⟩ := codeRule_check_ofPoints_iff.mp h
    exact ⟨⟨points, hv, hs⟩, hcode⟩
  · rintro ⟨⟨points, hv, hs⟩, hcode⟩
    rw [trimmed_of_points? hv]
    exact codeRule_check_ofPoints_iff.mpr ⟨hs, hcode⟩

theorem forall₂_iff_map {α β : Type} {R : α → β → Prop} {f : α → β}
    (hR : ∀ x y, R x y ↔ y = f x) {xs : List α} {ys : List β} :
    xs.Forall₂ R ys ↔ ys = xs.map f := by
  induction xs generalizing ys with
  | nil => cases ys <;> simp
  | cons x xs ih => cases ys <;> simp [hR, ih]

theorem exists_of_forall₂ {α β : Type} {R : α → β → Prop} {xs : List α} {ys : List β} {x : α}
    (h : xs.Forall₂ R ys) (hx : x ∈ xs) : ∃ y ∈ ys, R x y := by
  induction h with
  | nil => cases hx
  | @cons a b _ _ hab _ ih =>
    rcases List.mem_cons.mp hx with rfl | hx
    · exact ⟨b, List.mem_cons_self, hab⟩
    · obtain ⟨y, hy, hxy⟩ := ih hx
      exact ⟨y, List.mem_cons_of_mem _ hy, hxy⟩

section
variable {α : Type} {f : α → Json} {R : α → String → Prop}

/-- **Items are accepted one by one**: each is in a relation to its code, which is of a form. -/
theorem map_check_iff (hf : ∀ a s, codeRule.check (f a) = .ok s ↔ R a s ∧ IsDiallingCode s)
    {xs : List α} : (xs.map f).map codeRule.check = codes.map .ok ↔
      xs.Forall₂ R codes ∧ ∀ code ∈ codes, IsDiallingCode code := by
  induction xs generalizing codes with
  | nil => cases codes <;> simp
  | cons x xs ih =>
    cases codes with
    | nil => simp
    | cons code codes =>
      simp only [List.map_cons, List.cons.injEq, ih, hf, List.forall₂_cons, List.forall_mem_cons]
      exact and_and_and_comm

theorem array_check_iff (hf : ∀ a s, codeRule.check (f a) = .ok s ↔ R a s ∧ IsDiallingCode s)
    (xs : List α) : itemsAtLeast 1 codeRule.check (.array (xs.map f)) = .ok codes ↔
      xs.Forall₂ R codes ∧ codes ≠ [] ∧ ∀ code ∈ codes, IsDiallingCode code := by
  have hne : 1 ≤ codes.length ↔ codes ≠ [] := List.length_pos_iff
  rw [itemsAtLeast_eq_ok_iff, hne]
  constructor
  · rintro ⟨_, heq, h, hcodes⟩
    cases heq
    obtain ⟨hall, hdialling⟩ := (map_check_iff hf).mp h
    exact ⟨hall, hcodes, hdialling⟩
  · rintro ⟨hall, hcodes, hdialling⟩
    exact ⟨_, rfl, (map_check_iff hf).mpr ⟨hall, hdialling⟩, hcodes⟩

end

theorem codeList_of_points? (h : v.points? = some points) :
    codeList v = .array ((pointParts points).map ofPoints) := by
  cases v with
  | text t =>
    cases h
    have hback : (ofPoints ∘ fun part : String => part.toList.map Char.toNat) = Json.text :=
      funext ofPoints_toNat
    rw [codeList, pointParts_toNat, List.map_map, hback]
  | torn points =>
    cases h
    rfl
  | _ => cases h

theorem pointParts_eq_filter (points : List Nat) :
    pointParts points = ((splitAt ','.toNat points).map trimPoints).filter (· ≠ []) := by
  refine List.filter_congr fun part _ => ?_
  cases part <;> rfl

/-- A text lists its parts. -/
theorem lists_iff_of_points? (h : v.points? = some points) :
    Lists v codes ↔ codes = (pointParts points).map textOf := by
  rw [pointParts_eq_filter]
  constructor
  · intro hlists
    cases hlists with
    | text hne hparts hv htrims =>
      rw [Option.some.inj (h.symm.trans hv), splitAt_joinWith hne hparts,
        (forall₂_iff_map fun _ _ => trims_iff).mp htrims]
      rfl
    | array => cases h
  · rintro rfl
    refine Lists.text (splitAt_ne_nil _ _) (fun part hpart => not_mem_of_mem_splitAt hpart) ?_
      ((forall₂_iff_map fun _ _ => trims_iff).mpr rfl)
    rw [h, joinWith_splitAt]

theorem lists_array_iff : Lists (.array vs) codes ↔ vs.Forall₂ IsTrimmed codes := by
  constructor
  · intro h
    cases h with
    | text _ _ hv _ => cases hv
    | array h => exact h
  · exact Lists.array

/-- **The dialling codes that a rule accepts.** -/
theorem codes_check_iff : itemsAtLeast 1 codeRule.check (codeList v) = .ok codes ↔
    Lists v codes ∧ codes ≠ [] ∧ ∀ code ∈ codes, IsDiallingCode code := by
  cases hv : v.points? with
  | some points =>
    rw [codeList_of_points? hv, lists_iff_of_points? hv, ← forall₂_iff_map fun _ _ => Iff.rfl]
    exact array_check_iff (fun _ _ => codeRule_check_ofPoints_iff) (pointParts points)
  | none =>
    cases v with
    | array vs =>
      rw [lists_array_iff]
      exact array_check_iff (fun _ _ => codeRule_check_trimmed_iff) vs
    | text t => cases hv
    | torn points => cases hv
    | _ =>
      -- What is neither a text nor an array is left as it is, which is no list.
      refine iff_of_false Checked.refuse_ne_ok fun ⟨hlists, _⟩ => ?_
      cases hlists with
      | text _ _ h _ => cases h

/-! ## Country codes -/

/-- **The country codes that a rule accepts.** -/
theorem letters_check_iff {length : Nat} :
    ({ pattern := some (.letters length) } : TextRule).check v = .ok s ↔
      v = .text s ∧ IsLetters length s := by
  rw [TextRule.check_eq_ok_iff, TextRule.fault?_eq_none_iff]
  refine and_congr_right fun _ => ⟨?_, fun h => ?_⟩
  · rintro ⟨-, -, hpattern⟩
    have haccepts := hpattern _ rfl
    simp only [Pattern.accepts, Bool.and_eq_true, decide_eq_true_eq, List.all_eq_true] at haccepts
    exact ⟨haccepts.1, haccepts.2⟩
  · refine ⟨Nat.zero_le _, fun n hn => ?_, fun p hp => ?_⟩
    · cases hn
    · cases hp
      rw [Pattern.accepts, Bool.and_eq_true, decide_eq_true_eq, List.all_eq_true]
      exact ⟨h.length, h.letters⟩

/-! ## Fields -/

theorem required_field_iff {name : String} {rule : Json → Checked α} {x : α} :
    required [name] rule fields = .ok x ↔ ∃ v, fieldOf? name fields = some v ∧ rule v = .ok x := by
  rw [required_eq_ok_iff]
  cases hf : fieldOf? name fields <;> simp [firstField?, hf]

theorem required_codes_iff {rule : Json → Checked α} {x : α} :
    required codesNames rule fields = .ok x ↔ ∃ v, codesOf? fields = some v ∧ rule v = .ok x := by
  rw [required_eq_ok_iff]
  unfold codesOf?
  cases hf : fieldOf? "countryCode" fields <;> cases hg : fieldOf? "country_codes" fields <;>
    simp [codesNames, firstField?, hf, hg]

/-- **A draft is read from its fields one by one.** -/
theorem ofFields_eq_ok_iff {d : Draft} : ofFields fields = .ok d ↔
    (∃ v, fieldOf? "name" fields = some v ∧ nameRule.check (trimmed v) = .ok d.name) ∧
    (∃ v, fieldOf? "continent" fields = some v ∧
      continentRule.check (trimmed v) = .ok d.continent) ∧
    (∃ v, codesOf? fields = some v ∧
      itemsAtLeast 1 codeRule.check (codeList v) = .ok d.codes) ∧
    (∃ v, fieldOf? "iso2" fields = some v ∧ iso2Rule.check v = .ok d.iso2) ∧
    ∃ v, fieldOf? "iso3" fields = some v ∧ iso3Rule.check v = .ok d.iso3 := by
  simp only [ofFields, Checked.seq_eq_ok_iff, Checked.map_eq_ok_iff, required_field_iff,
    required_codes_iff]
  constructor
  · rintro ⟨_, iso3, ⟨_, iso2, ⟨_, codes, ⟨_, continent, ⟨name, hname, rfl⟩, hcontinent, rfl⟩,
      hcodes, rfl⟩, hiso2, rfl⟩, hiso3, rfl⟩
    exact ⟨hname, hcontinent, hcodes, hiso2, hiso3⟩
  · rintro ⟨hname, hcontinent, hcodes, hiso2, hiso3⟩
    exact ⟨_, d.iso3, ⟨_, d.iso2, ⟨_, d.codes, ⟨_, d.continent, ⟨d.name, hname, rfl⟩, hcontinent,
      rfl⟩, hcodes, rfl⟩, hiso2, rfl⟩, hiso3, rfl⟩

/-- A field whose text is accepted as a name or a continent. -/
theorem hasLabel_iff {name : String} {greatest : Nat} :
    HasLabel (fun p => isHalf p = false) name greatest fields ↔
      ∃ s v, fieldOf? name fields = some v ∧
        ({ least := 1, greatest := some greatest } : TextRule).check (trimmed v) = .ok s := by
  simp only [label_check_iff]
  constructor
  · rintro ⟨v, points, _, hf, hv, htrims, h⟩
    obtain rfl := htrims.eq_trimBy
    exact ⟨_, v, hf, points, hv, rfl, h⟩
  · rintro ⟨s, v, hf, points, hv, -, h⟩
    exact ⟨v, points, _, hf, hv, trims_trimBy _ _, h⟩

theorem wellFormed_of_ofFields {d : Draft} (h : ofFields fields = .ok d) :
    WellFormed (fun p => isHalf p = false) fields := by
  obtain ⟨hname, hcontinent, ⟨v, hf, hcodes⟩, ⟨v₂, hf₂, hiso2⟩, ⟨v₃, hf₃, hiso3⟩⟩ :=
    ofFields_eq_ok_iff.mp h
  obtain ⟨rfl, hletters2⟩ := letters_check_iff.mp hiso2
  obtain ⟨rfl, hletters3⟩ := letters_check_iff.mp hiso3
  exact ⟨hasLabel_iff.mpr ⟨_, hname⟩, hasLabel_iff.mpr ⟨_, hcontinent⟩,
    ⟨v, _, hf, codes_check_iff.mp hcodes⟩, ⟨_, hf₂, hletters2⟩, ⟨_, hf₃, hletters3⟩⟩

theorem exists_ofFields (h : WellFormed (fun p => isHalf p = false) fields) :
    ∃ d, ofFields fields = .ok d := by
  obtain ⟨name, hname⟩ := hasLabel_iff.mp h.name
  obtain ⟨continent, hcontinent⟩ := hasLabel_iff.mp h.continent
  obtain ⟨v, codes, hf, hcodes⟩ := h.codes
  obtain ⟨iso2, hf₂, hiso2⟩ := h.iso2
  obtain ⟨iso3, hf₃, hiso3⟩ := h.iso3
  exact ⟨⟨name, continent, codes, iso2, iso3⟩, ofFields_eq_ok_iff.mpr ⟨hname, hcontinent,
    ⟨v, hf, codes_check_iff.mpr hcodes⟩, ⟨_, hf₂, letters_check_iff.mpr ⟨rfl, hiso2⟩⟩,
    ⟨_, hf₃, letters_check_iff.mpr ⟨rfl, hiso3⟩⟩⟩⟩

theorem isTrimmed_of_label_check {greatest : Nat}
    (h : ({ least := 1, greatest := some greatest } : TextRule).check (trimmed v) = .ok s) :
    IsTrimmed v s := by
  obtain ⟨points, hv, hs, -⟩ := label_check_iff.mp h
  exact isTrimmed_iff.mpr ⟨points, hv, hs⟩

theorem holds_of_ofFields {d : Draft} (h : ofFields fields = .ok d) : Holds fields d := by
  obtain ⟨⟨v, hf, hname⟩, ⟨v₁, hf₁, hcontinent⟩, ⟨v₂, hf₂, hcodes⟩, ⟨v₃, hf₃, hiso2⟩,
    ⟨v₄, hf₄, hiso3⟩⟩ := ofFields_eq_ok_iff.mp h
  obtain ⟨rfl, -⟩ := letters_check_iff.mp hiso2
  obtain ⟨rfl, -⟩ := letters_check_iff.mp hiso3
  exact ⟨⟨v, hf, isTrimmed_of_label_check hname⟩, ⟨v₁, hf₁, isTrimmed_of_label_check hcontinent⟩,
    ⟨v₂, hf₂, (codes_check_iff.mp hcodes).1⟩, hf₃, hf₄⟩

/-! ## Blank codes -/

theorem commaParts_of_isAllBlank (h : isAllBlank s) : commaParts s = [] := by
  have hlists : ListsTexts s [] := ⟨[s.toList], rfl, .blank (List.all_eq_true.mp h) .nil⟩
  exact (listsTexts_iff fun _ hmem => absurd hmem List.not_mem_nil).mp hlists

/-- A text that is not torn lists its parts as texts. -/
theorem lists_text_iff : Lists (.text s) codes ↔ codes = commaParts s := by
  have hback : (textOf ∘ fun part : String => part.toList.map Char.toNat) = id :=
    funext textOf_toNat
  rw [lists_iff_of_points? rfl, pointParts_toNat, List.map_map, hback, List.map_id]

/-! ## The drafts that are accepted -/

theorem readFor_eq_ok_iff {purpose : Purpose} {d : Draft} :
    readFor purpose v = .ok d ↔ ∃ fields, v = .object fields ∧ ofFields fields = .ok d := by
  unfold readFor read record
  cases v with
  | object fields =>
    cases hf : ofFields fields with
    | ok d' => simp [Checked.toExcept, hf]
    | faulty issues => simp [Checked.toExcept, hf]
  | _ => exact iff_of_false nofun fun ⟨_, h, _⟩ => by cases h

/-- **The grammar of drafts for a purpose.** -/
structure ReadsGrammar (purpose : Purpose) : Prop where
  /-- Those values are accepted that are well-formed, without half a surrogate pair in the name or
  the continent, and no others. -/
  accepted_iff : ∀ v, (∃ d, readFor purpose v = .ok d) ↔
    ∃ fields, v = .object fields ∧ WellFormed (fun p => isHalf p = false) fields
  /-- The draft holds what the fields say. -/
  holds : ∀ v d, readFor purpose v = .ok d → ∃ fields, v = .object fields ∧ Holds fields d
  /-- In a text, a part of blanks only does not count, -/
  dropped : ∀ before blank after codes, isAllBlank blank →
    (Lists (.text (before ++ "," ++ blank ++ "," ++ after)) codes ↔
      Lists (.text (before ++ "," ++ after)) codes)
  /-- but an item of blanks only is refused. -/
  refused : ∀ fields vs blank, codesOf? fields = some (.array vs) → .text blank ∈ vs →
    isAllBlank blank → ∀ d, readFor purpose (.object fields) ≠ .ok d

/-- A code of blanks only is no dialling code. -/
theorem not_isDiallingCode_of_isTrimmed {blank : String} (h : isAllBlank blank)
    (hs : IsTrimmed (.text blank) s) : ¬IsDiallingCode s := by
  intro hcode
  have hleast := hcode.least
  rw [isTrimmed_text_iff.mp hs, toList_trim, trimBy_of_all h] at hleast
  exact absurd hleast (by decide)

/-- **A draft is accepted if and only if it is of the grammar.** -/
theorem readsGrammar (purpose : Purpose) : ReadsGrammar purpose where
  accepted_iff v := by
    simp only [readFor_eq_ok_iff]
    constructor
    · rintro ⟨d, fields, hv, h⟩
      exact ⟨fields, hv, wellFormed_of_ofFields h⟩
    · rintro ⟨fields, hv, h⟩
      obtain ⟨d, hd⟩ := exists_ofFields h
      exact ⟨d, fields, hv, hd⟩
  holds v d h := by
    obtain ⟨fields, hv, hd⟩ := readFor_eq_ok_iff.mp h
    exact ⟨fields, hv, holds_of_ofFields hd⟩
  dropped before blank after codes hblank := by
    rw [lists_text_iff, lists_text_iff, commaParts_append, commaParts_append,
      commaParts_of_isAllBlank hblank, List.append_nil, ← commaParts_append]
  refused fields vs blank hf hmem hblank d h := by
    obtain ⟨_, heq, hd⟩ := readFor_eq_ok_iff.mp h
    cases heq
    obtain ⟨v, codes, hv, hlists, -, hdialling⟩ := (wellFormed_of_ofFields hd).codes
    obtain rfl := Option.some.inj (hf.symm.trans hv)
    obtain ⟨code, hcode, hs⟩ := exists_of_forall₂ (lists_array_iff.mp hlists) hmem
    exact not_isDiallingCode_of_isTrimmed hblank hs (hdialling code hcode)

/-- Names are trimmed, the part of blanks is dropped, and the codes stay in their order. -/
example : readFor .creation (.object [("name", .text " Dominica "), ("continent", .text "America"),
    ("countryCode", .text "1-809, 1-829,, +1-849 "), ("iso2", .text "dm"), ("iso3", .text "DMA"),
    ("country_codes", .null)]) =
      .ok ⟨"Dominica", "America", ["1-809", "1-829", "+1-849"], "dm", "DMA"⟩ := by rfl

/-- A country whose name is half a surrogate pair. -/
def half : List (String × Json) :=
  [("name", .torn [0xD800]), ("continent", .text "Europe"), ("countryCode", .text "33"),
    ("iso2", .text "FR"), ("iso3", .text "FRA")]

theorem wellFormed_half : WellFormed (fun _ => True) half where
  name := ⟨_, _, _, rfl, rfl, trims_trimBy _ _, by decide, by decide, fun _ _ => trivial⟩
  continent := ⟨_, _, _, rfl, rfl, trims_trimBy _ _, by decide, by decide, fun _ _ => trivial⟩
  codes := by
    refine ⟨.text "33", ["33"], rfl, lists_text_iff.mpr (by decide), by decide, ?_⟩
    intro code hcode
    rw [List.mem_singleton.mp hcode]
    exact ⟨by decide, by decide, List.all_eq_true.mp (by decide)⟩
  iso2 := ⟨_, rfl, by decide, List.all_eq_true.mp (by decide)⟩
  iso3 := ⟨_, rfl, by decide, List.all_eq_true.mp (by decide)⟩

/-- **Half a surrogate pair is one code point, but no name**; so not every draft is accepted whose
code points are as many as there should be. -/
theorem not_accepted_half :
    ¬((∃ d, readFor .creation (.object half) = .ok d) ↔
      ∃ fields, Json.object half = .object fields ∧ WellFormed (fun _ => True) fields) := by
  intro h
  obtain ⟨d, hd⟩ := h.mpr ⟨half, rfl, wellFormed_half⟩
  have hrefused : readFor .creation (.object half) =
      .error ⟨"CountryCreateIn", [⟨[.field "name"], .textUnreadable, .torn [0xD800]⟩]⟩ := by rfl
  rw [hrefused] at hd
  cases hd

end Gazetteer.Country.Draft
