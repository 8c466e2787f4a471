import Gazetteer.Proofs.Country.Draft
import Gazetteer.Proofs.Registry.Key
import Gazetteer.Proofs.Validation.Integer
import Gazetteer.Proofs.Validation.Quoting

/-!
# The grammar of search requests

A request is accepted if and only if it is an object whose filters and whose numbers are of a
certain form, which is told here without the rules that check it.  What it says of the order is of
no account for that: a text that names no field stands for the name, and the test whether it names
one, in small letters, agrees with the lookup of the field that follows.  Filters are taken by their
code points; half a surrogate pair is one, but a filter that holds one is no text and is refused.

* `choiceOf?_eq_some_iff`, `sortField_eq_ok_iff`: the choice that a word stands for;
* `IsFilter`, `IsNumber`, `NamesField`: what a field is given as, and what it comes to;
* `WellFormed`, `Describes`: the form of the fields, and the request that they describe;
* `filter_eq_ok_iff`, `positive_eq_ok_iff`: the rules field by field;
* `readsExactly`: the requests that are accepted; `not_accepted_torn`: one whose filter is no text.
-/

namespace Gazetteer.Search

open Text Validation

/-! ## Words -/

section
variable {α : Type} {word : α → String} {all : List α} {s : String} {x : α}

/-- **A word stands for the choice whose word it is in small letters**, whether it is spelt so or
not. -/
theorem choiceOf?_eq_some_iff (hsmall : ∀ x ∈ all, lower (word x) = word x)
    (hinj : ∀ x ∈ all, ∀ y ∈ all, word x = word y → x = y) :
    choiceOf? word all s = some x ↔ x ∈ all ∧ word x = lower s := by
  have hone : ∀ {y : α}, y ∈ all → word y = lower s →
      (y = x ↔ x ∈ all ∧ word x = lower s) := fun hy hword =>
    ⟨fun h => h ▸ ⟨hy, hword⟩, fun h => hinj _ hy x h.1 (hword.trans h.2.symm)⟩
  unfold choiceOf?
  cases hf : all.find? (word · = s) with
  | some y =>
    -- A word that is spelt so is its own small form.
    have hmem := List.mem_of_find?_eq_some hf
    obtain rfl : word y = s := by simpa using List.find?_some hf
    rw [Option.some_or, Option.some.injEq]
    exact hone hmem (hsmall y hmem).symm
  | none =>
    rw [Option.none_or]
    cases hg : all.find? fun y => lower (word y) = lower s with
    | some y =>
      have hmem := List.mem_of_find?_eq_some hg
      have hword : lower (word y) = lower s := by simpa using List.find?_some hg
      rw [Option.some.injEq]
      exact hone hmem ((hsmall y hmem).symm.trans hword)
    | none =>
      refine iff_of_false nofun fun h => ?_
      have hnot := List.find?_eq_none.mp hg x h.1
      simp only [hsmall x h.1, decide_eq_true_eq] at hnot
      exact hnot h.2

end

theorem SortField.lower_word (f : SortField) : lower f.word = f.word := by cases f <;> decide

theorem SortField.ofWord?_eq_some_iff {s : String} {f : SortField} :
    SortField.ofWord? s = some f ↔ f.word = lower s := by
  unfold ofWord?
  rw [choiceOf?_eq_some_iff (fun f _ => lower_word f) fun _ _ _ _ h => Key.word_injective h]
  simp only [mem_all, true_and]

namespace Request

open Json Country

variable {v : Json} {points : List Nat} {fields : List (String × Json)} {P : Nat → Prop}
  {Q : List Nat → Prop}

/-! ## The grammar -/

/-- **What a filter is given as, and what it comes to**: the texts are held to a demand, and their
code points are of a kind. -/
inductive IsFilter (P : Nat → Prop) (Q : List Nat → Prop) : Option Json → Option String → Prop
  | absent : IsFilter P Q none none
  | null : IsFilter P Q (some .null) none
  /-- A text of blanks only is no filter, whatever the demand. -/
  | blank {points : List Nat} (h : ∀ p ∈ points, isBlankPoint p) :
      IsFilter P Q (some (ofPoints points)) none
  /-- Another text is one as it is, without being trimmed. -/
  | text {points : List Nat} (hblank : ∃ p ∈ points, isBlankPoint p = false)
      (hP : ∀ p ∈ points, P p) (hQ : Q points) :
      IsFilter P Q (some (ofPoints points)) (some (textOf points))

/-- At most so many code points. -/
def IsShort (greatest : Nat) (points : List Nat) : Prop := points.length ≤ greatest

/-- So many capital letters. -/
structure IsCapitals (length : Nat) (points : List Nat) : Prop where
  length : points.length = length
  capital : ∀ p ∈ points, 'A'.toNat ≤ p ∧ p ≤ 'Z'.toNat

/-- At most 20 decimal digits, hyphens and plus signs. -/
structure IsDialled (points : List Nat) : Prop where
  greatest : points.length ≤ 20
  dialling : ∀ p ∈ points, isDialling (Char.ofNat p)

/-- **What a number is given as, and what it comes to.** -/
inductive IsNumber (default greatest : Nat) : Option Json → Nat → Prop
  | absent : IsNumber default greatest none default
  | given {v : Json} {n : Nat} (h : ComesTo v n) (hleast : 1 ≤ n) (hgreatest : n ≤ greatest) :
      IsNumber default greatest (some v) n

/-- **The field that is named**: the one whose word the text is, once it is trimmed and in small
letters, and the name in every other case. -/
inductive NamesField : Option Json → SortField → Prop
  | word {s : String} {f : SortField} (h : f.word = lower (trim s)) : NamesField (some (.text s)) f
  | other {o : Option Json}
      (h : ∀ s (f : SortField), o = some (.text s) → f.word ≠ lower (trim s)) : NamesField o .name

/-- The value of a field that has two names, of which the first goes before. -/
def givenAs (first second : String) (fields : List (String × Json)) : Option Json :=
  (fieldOf? first fields).or (fieldOf? second fields)

/-- **Fields that describe a request**, the code points of its filters being of a kind. -/
structure WellFormed (P : Nat → Prop) (fields : List (String × Json)) : Prop where
  name : ∃ o, IsFilter P (IsShort 100) (fieldOf? "name" fields) o
  continent : ∃ o, IsFilter P (IsShort 50) (fieldOf? "continent" fields) o
  iso2 : ∃ o, IsFilter P (IsCapitals 2) (fieldOf? "iso2" fields) o
  iso3 : ∃ o, IsFilter P (IsCapitals 3) (fieldOf? "iso3" fields) o
  countryCode : ∃ o, IsFilter P IsDialled (givenAs "countryCode" "country_code" fields) o
  pageNumber : ∃ n, IsNumber 1 (2 ^ 31 - 1) (givenAs "pageNumber" "page_number" fields) n
  pageSize : ∃ n, IsNumber 50 1000 (givenAs "pageSize" "page_size" fields) n

/-- **The request that fields describe.** -/
structure Describes (P : Nat → Prop) (fields : List (String × Json)) (r : Request) : Prop where
  name : IsFilter P (IsShort 100) (fieldOf? "name" fields) r.name
  continent : IsFilter P (IsShort 50) (fieldOf? "continent" fields) r.continent
  iso2 : IsFilter P (IsCapitals 2) (fieldOf? "iso2" fields) r.iso2
  iso3 : IsFilter P (IsCapitals 3) (fieldOf? "iso3" fields) r.iso3
  countryCode : IsFilter P IsDialled (givenAs "countryCode" "country_code" fields) r.countryCode
  pageNumber : IsNumber 1 (2 ^ 31 - 1) (givenAs "pageNumber" "page_number" fields) r.pageNumber
  pageSize : IsNumber 50 1000 (givenAs "pageSize" "page_size" fields) r.pageSize
  sortBy : NamesField (givenAs "sortBy" "sort_by" fields) r.sortBy
  descending : r.isDescending ↔
    ∃ s, givenAs "sortDirection" "sort_direction" fields = some (.text s) ∧ lower (trim s) = "desc"

/-! ## Filters -/

theorem isHalf_of_isBlankPoint {p : Nat} (h : isBlankPoint p) : isHalf p = false := by
  by_contra hhalf
  rw [isBlankPoint, ofNat_of_isHalf (by simpa using hhalf)] at h
  exact absurd h (by decide)

theorem isAllBlank_textOf_iff : isAllBlank (textOf points) ↔ ∀ p ∈ points, isBlankPoint p := by
  simp [isAllBlank, textOf, isBlankPoint]

theorem filter_text_of_blank {rule : TextRule} {s : String} (h : isAllBlank s) :
    filter rule (.text s) = .ok none := by
  rw [filter, blankAsNull, if_pos h]
  rfl

theorem filter_text_eq_ok_iff {rule : TextRule} {s : String} {o : Option String}
    (h : isAllBlank s = false) :
    filter rule (.text s) = .ok o ↔ o = some s ∧ rule.fault? s.toList = none := by
  rw [filter, blankAsNull, if_neg (by simp [h])]
  simp only [Validation.optional, Checked.map_eq_ok_iff, TextRule.check_eq_ok_iff, Json.text.injEq]
  constructor
  · rintro ⟨t, ⟨rfl, hfault⟩, rfl⟩
    exact ⟨rfl, hfault⟩
  · rintro ⟨rfl, hfault⟩
    exact ⟨s, ⟨rfl, hfault⟩, rfl⟩

/-- **The filters that a rule accepts**, if it makes a demand on the code points of texts. -/
theorem filter_eq_ok_iff {rule : TextRule} {o : Option String}
    (hrule : ∀ points, points ≠ [] → (∀ p ∈ points, isHalf p = false) →
      (rule.fault? (textOf points).toList = none ↔ Q points)) :
    filter rule v = .ok o ↔ IsFilter (fun p => isHalf p = false) Q (some v) o := by
  constructor
  · intro h
    cases v with
    | null =>
      cases h
      exact .null
    | text s =>
      obtain ⟨points, hpoints, hhalf, rfl⟩ : ∃ points, Json.text s = ofPoints points ∧
          (∀ p ∈ points, isHalf p = false) ∧ s = textOf points :=
        ⟨_, (ofPoints_toNat s).symm, ofPoints_eq_text_iff.mp (ofPoints_toNat s)⟩
      rw [hpoints]
      cases hb : isAllBlank (textOf points) with
      | true =>
        rw [filter_text_of_blank hb] at h
        cases h
        exact .blank (isAllBlank_textOf_iff.mp hb)
      | false =>
        obtain ⟨rfl, hfault⟩ := (filter_text_eq_ok_iff hb).mp h
        have hblank : ∃ p ∈ points, isBlankPoint p = false := by
          by_contra hall
          push Not at hall
          rw [isAllBlank_textOf_iff.mpr fun p hp => by simpa using hall p hp] at hb
          exact nomatch hb
        obtain ⟨p, hp, -⟩ := id hblank
        exact .text hblank hhalf ((hrule points (List.ne_nil_of_mem hp) hhalf).mp hfault)
    | _ =>
      obtain ⟨_, ht, -⟩ := Checked.map_eq_ok_iff.mp h
      cases (TextRule.check_eq_ok_iff.mp ht).1
  · intro h
    generalize ho : some v = given at h
    cases h with
    | absent => cases ho
    | null =>
      cases ho
      rfl
    | @blank points hblank =>
      cases ho
      rw [ofPoints_eq_text_iff.mpr ⟨fun p hp => isHalf_of_isBlankPoint (hblank p hp), rfl⟩]
      exact filter_text_of_blank (isAllBlank_textOf_iff.mpr hblank)
    | @text points hblank hhalf hQ =>
      cases ho
      obtain ⟨p, hp, hpb⟩ := hblank
      have hb : isAllBlank (textOf points) = false := by
        rw [← Bool.not_eq_true, isAllBlank_textOf_iff]
        exact fun hall => by simp [hall p hp] at hpb
      rw [ofPoints_eq_text_iff.mpr ⟨hhalf, rfl⟩, filter_text_eq_ok_iff hb]
      exact ⟨rfl, (hrule points (List.ne_nil_of_mem hp) hhalf).mpr hQ⟩

theorem short_fault?_iff {greatest : Nat} :
    ({ greatest := some greatest } : TextRule).fault? (textOf points).toList = none ↔
      IsShort greatest points := by
  rw [TextRule.fault?_eq_none_iff, IsShort]
  simp [textOf]

theorem isUpper_ofNat_iff {p : Nat} :
    (Char.ofNat p).isUpper ↔ 'A'.toNat ≤ p ∧ p ≤ 'Z'.toNat := by
  have hiff : ∀ c : Char, c.isUpper ↔ 'A'.toNat ≤ c.toNat ∧ c.toNat ≤ 'Z'.toNat :=
    fun c => decide_eq_true_iff
  rw [hiff, toNat_ofNat p]
  split
  · exact Iff.rfl
  · next hp =>
    simp only [Nat.isValidChar] at hp
    have hA : 'A'.toNat = 65 := rfl
    have hZ : 'Z'.toNat = 90 := rfl
    omega

theorem capitals_fault?_iff {length : Nat} :
    ({ pattern := some (.capitals length) } : TextRule).fault? (textOf points).toList = none ↔
      IsCapitals length points := by
  have haccepts : (Pattern.capitals length).accepts (textOf points).toList ↔
      IsCapitals length points := by
    simp only [Pattern.accepts, textOf, String.toList_ofList, List.length_map, Bool.and_eq_true,
      decide_eq_true_eq, List.all_map, List.all_eq_true, Function.comp_apply, isUpper_ofNat_iff]
    exact ⟨fun h => ⟨h.1, h.2⟩, fun h => ⟨h.length, h.capital⟩⟩
  rw [TextRule.fault?_eq_none_iff, ← haccepts]
  simp

theorem dialled_fault?_iff (h : points ≠ []) :
    countryCodeRule.fault? (textOf points).toList = none ↔ IsDialled points := by
  rw [TextRule.fault?_eq_none_iff]
  simp only [countryCodeRule, Nat.zero_le, Option.mem_def, Option.some.injEq, forall_eq', true_and,
    Pattern.accepts, textOf, String.toList_ofList, List.length_map, Bool.and_eq_true,
    List.isEmpty_map, List.all_map, List.all_eq_true, Function.comp_apply]
  have hne : (!points.isEmpty) = true := by simpa using h
  exact ⟨fun h => ⟨h.1, h.2.2⟩, fun h => ⟨h.greatest, hne, h.dialling⟩⟩

/-! ## Numbers -/

theorem between_eq_ok_iff {least greatest n : ℤ} :
    between least greatest v = .ok n ↔ ComesTo v n ∧ least ≤ n ∧ n ≤ greatest := by
  rw [between, Checked.andThen_eq_ok_iff, ← integer_eq_ok_iff]
  constructor
  · rintro ⟨m, hm, h⟩
    split_ifs at h with hgreatest hleast
    · exact absurd h Checked.refuse_ne_ok
    · exact absurd h Checked.refuse_ne_ok
    · cases h
      exact ⟨hm, by omega, by omega⟩
  · rintro ⟨hv, hleast, hgreatest⟩
    exact ⟨n, hv, by rw [if_neg (by omega), if_neg (by omega)]⟩

/-- **The numbers that are accepted.** -/
theorem positive_eq_ok_iff {default greatest n : Nat} :
    positive greatest v = .ok n ↔ IsNumber default greatest (some v) n := by
  simp only [positive, Checked.map_eq_ok_iff, between_eq_ok_iff]
  constructor
  · rintro ⟨m, ⟨hv, hleast, hgreatest⟩, rfl⟩
    obtain ⟨k, rfl⟩ := Int.eq_ofNat_of_zero_le (show 0 ≤ m by omega)
    exact .given hv (by omega) (by omega)
  · intro h
    cases h with
    | given hv hleast hgreatest => exact ⟨n, ⟨hv, by omega, by omega⟩, by omega⟩

/-! ## The order -/

theorem any_word_iff {s : String} :
    SortField.all.any (·.word = lower s) ↔ ∃ f : SortField, f.word = lower s := by
  simp [SortField.mem_all]

/-- **The field that a value names is found**: a text that passes the test is the word of one. -/
theorem sortField_eq_ok_iff {f : SortField} :
    sortField v = .ok f ↔ NamesField (some v) f := by
  have hother : (∀ s (g : SortField), some v = some (.text s) → g.word ≠ lower (trim s)) →
      sortField v = .ok .name := by
    intro hnone
    unfold sortField
    split
    · next s =>
      rw [if_neg fun hany => ?_]
      obtain ⟨g, hg⟩ := any_word_iff.mp hany
      exact hnone s g rfl hg
    · rfl
  have hword : ∀ {s : String} {g : SortField}, g.word = lower (trim s) →
      sortField (.text s) = .ok g := by
    intro s g hg
    simp only [sortField, any_word_iff.mpr ⟨g, hg⟩, if_true, SortField.ofWord?_eq_some_iff.mpr hg]
  constructor
  · intro h
    by_cases hnone : ∀ s (g : SortField), some v = some (.text s) → g.word ≠ lower (trim s)
    · rw [hother hnone] at h
      cases h
      exact .other hnone
    · push Not at hnone
      obtain ⟨s, g, hv, hg⟩ := hnone
      cases hv
      rw [hword hg] at h
      cases h
      exact .word hg
  · intro h
    cases h with
    | word h => exact hword h
    | other h => exact hother h

/-- Whatever is given, a field is named. -/
theorem exists_namesField (o : Option Json) : ∃ f, NamesField o f := by
  by_cases h : ∀ s (f : SortField), o = some (.text s) → f.word ≠ lower (trim s)
  · exact ⟨_, .other h⟩
  · push Not at h
    obtain ⟨s, f, rfl, hf⟩ := h
    exact ⟨f, .word hf⟩

theorem sortDirection_eq_descending_iff :
    sortDirection v = .descending ↔ ∃ s, v = .text s ∧ lower (trim s) = "desc" := by
  cases v with
  | text s =>
    by_cases h : lower (trim s) = SortDirection.descending.word
    · simp only [sortDirection, if_pos h, Json.text.injEq, true_iff]
      exact ⟨s, rfl, h⟩
    · simp only [sortDirection, if_neg h, reduceCtorEq, Json.text.injEq, false_iff]
      rintro ⟨_, rfl, hdesc⟩
      exact h hdesc
  | _ => simp [sortDirection]

/-! ## Fields -/

theorem firstField?_one (name : String) :
    (firstField? [name] fields).map (·.2) = fieldOf? name fields := by
  cases h : fieldOf? name fields <;> simp [firstField?, h]

theorem firstField?_two (first second : String) :
    (firstField? [first, second] fields).map (·.2) = givenAs first second fields := by
  unfold givenAs
  cases h : fieldOf? first fields <;> cases h' : fieldOf? second fields <;>
    simp [firstField?, h, h']

/-- **A field that may be left out is read from what is given**, in any relation that says of what
is left out that it comes to the default. -/
theorem withDefault_eq_ok_iff {R : Option Json → α → Prop} {names : List String} {default x : α}
    {rule : Json → Checked α} (hsome : ∀ v, rule v = .ok x ↔ R (some v) x)
    (hnone : R none x ↔ x = default) : withDefault names default rule fields = .ok x ↔
      R ((firstField? names fields).map (·.2)) x := by
  unfold withDefault
  cases firstField? names fields with
  | none =>
    rw [Option.map_none, hnone, Checked.ok.injEq]
    exact eq_comm
  | some given => rw [Option.map_some, ← hsome, Checked.under_eq_ok_iff]

theorem withDefault_filter_iff {names : List String} {rule : TextRule} {o : Option String}
    (hrule : ∀ points, points ≠ [] → (∀ p ∈ points, isHalf p = false) →
      (rule.fault? (textOf points).toList = none ↔ Q points)) :
    withDefault names none (filter rule) fields = .ok o ↔
      IsFilter (fun p => isHalf p = false) Q ((firstField? names fields).map (·.2)) o := by
  refine withDefault_eq_ok_iff (fun v => filter_eq_ok_iff hrule) ⟨?_, ?_⟩
  · rintro ⟨⟩
    rfl
  · rintro rfl
    exact .absent

theorem withDefault_positive_iff {names : List String} {default greatest n : Nat} :
    withDefault names default (positive greatest) fields = .ok n ↔
      IsNumber default greatest ((firstField? names fields).map (·.2)) n := by
  refine withDefault_eq_ok_iff (fun v => positive_eq_ok_iff) ⟨?_, ?_⟩
  · rintro ⟨⟩
    rfl
  · rintro rfl
    exact .absent

theorem withDefault_sortField_iff {names : List String} {f : SortField} :
    withDefault names .name sortField fields = .ok f ↔
      NamesField ((firstField? names fields).map (·.2)) f := by
  refine withDefault_eq_ok_iff (fun v => sortField_eq_ok_iff) ⟨?_, ?_⟩
  · rintro ⟨⟩
    rfl
  · rintro rfl
    exact .other nofun

theorem withDefault_sortDirection_iff {names : List String} {d : SortDirection} :
    withDefault names .ascending (.ok <| sortDirection ·) fields = .ok d ↔
      (d = .descending ↔ ∃ s, (firstField? names fields).map (·.2) = some (.text s) ∧
        lower (trim s) = "desc") := by
  refine withDefault_eq_ok_iff (R := fun o (d : SortDirection) => d = .descending ↔
    ∃ s, o = some (.text s) ∧ lower (trim s) = "desc") (fun v => ?_) ?_
  · simp only [Checked.ok.injEq, Option.some.injEq, ← sortDirection_eq_descending_iff]
    cases sortDirection v <;> cases d <;> decide
  · simp only [reduceCtorEq, false_and, exists_false, iff_false]
    cases d <;> decide

/-- **A request is read from its fields one by one.** -/
theorem ofFields_eq_ok_iff {r : Request} :
    ofFields fields = .ok r ↔ Describes (fun p => isHalf p = false) fields r := by
  have hshort : ∀ greatest points, points ≠ [] → (∀ p ∈ points, isHalf p = false) →
      (({ greatest := some greatest } : TextRule).fault? (textOf points).toList = none ↔
        IsShort greatest points) := fun _ _ _ _ => short_fault?_iff
  have hcapitals : ∀ length points, points ≠ [] → (∀ p ∈ points, isHalf p = false) →
      (({ pattern := some (.capitals length) } : TextRule).fault? (textOf points).toList = none ↔
        IsCapitals length points) := fun _ _ _ _ => capitals_fault?_iff
  simp only [ofFields, Checked.seq_eq_ok_iff, Checked.map_eq_ok_iff, nameRule, continentRule,
    iso2Rule, iso3Rule, withDefault_filter_iff (hshort _), withDefault_filter_iff (hcapitals _),
    withDefault_filter_iff fun _ h _ => dialled_fault?_iff h, withDefault_positive_iff,
    withDefault_sortField_iff, withDefault_sortDirection_iff, firstField?_one, firstField?_two]
  constructor
  · rintro ⟨_, direction, ⟨_, sortBy, ⟨_, size, ⟨_, number, ⟨_, code, ⟨_, iso3, ⟨_, iso2, ⟨_,
      continent, ⟨name, hname, rfl⟩, hcontinent, rfl⟩, hiso2, rfl⟩, hiso3, rfl⟩, hcode, rfl⟩,
      hnumber, rfl⟩, hsize, rfl⟩, hsortBy, rfl⟩, hdirection, rfl⟩
    exact ⟨hname, hcontinent, hiso2, hiso3, hcode, hnumber, hsize, hsortBy,
      decide_eq_true_iff.trans hdirection⟩
  · rintro ⟨hname, hcontinent, hiso2, hiso3, hcode, hnumber, hsize, hsortBy, hdirection⟩
    exact ⟨_, r.direction, ⟨_, r.sortBy, ⟨_, r.pageSize, ⟨_, r.pageNumber, ⟨_, r.countryCode,
      ⟨_, r.iso3, ⟨_, r.iso2, ⟨_, r.continent, ⟨r.name, hname, rfl⟩, hcontinent, rfl⟩, hiso2, rfl⟩,
      hiso3, rfl⟩, hcode, rfl⟩, hnumber, rfl⟩, hsize, rfl⟩, hsortBy, rfl⟩,
      decide_eq_true_iff.symm.trans hdirection, rfl⟩

theorem Describes.wellFormed {r : Request} (h : Describes P fields r) : WellFormed P fields :=
  ⟨⟨_, h.name⟩, ⟨_, h.continent⟩, ⟨_, h.iso2⟩, ⟨_, h.iso3⟩, ⟨_, h.countryCode⟩, ⟨_, h.pageNumber⟩,
    ⟨_, h.pageSize⟩⟩

/-- Well-formed fields describe a request, whatever they say of its order. -/
theorem WellFormed.exists_describes (h : WellFormed P fields) : ∃ r, Describes P fields r := by
  obtain ⟨⟨name, hname⟩, ⟨continent, hcontinent⟩, ⟨iso2, hiso2⟩, ⟨iso3, hiso3⟩, ⟨code, hcode⟩,
    ⟨number, hnumber⟩, ⟨size, hsize⟩⟩ := h
  obtain ⟨sortBy, hsortBy⟩ := exists_namesField (givenAs "sortBy" "sort_by" fields)
  by_cases hdesc : ∃ s, givenAs "sortDirection" "sort_direction" fields = some (.text s) ∧
      lower (trim s) = "desc"
  · exact ⟨⟨name, continent, iso2, iso3, code, number, size, sortBy, .descending⟩, hname,
      hcontinent, hiso2, hiso3, hcode, hnumber, hsize, hsortBy, iff_of_true rfl hdesc⟩
  · exact ⟨⟨name, continent, iso2, iso3, code, number, size, sortBy, .ascending⟩, hname,
      hcontinent, hiso2, hiso3, hcode, hnumber, hsize, hsortBy, iff_of_false nofun hdesc⟩

/-! ## Issues -/

/-- What is wrong with a field is told under one of its names. -/
theorem head?_path_of_withDefault {names : List String} {default : α} {rule : Json → Checked α}
    {i : Issue} (h : i ∈ (withDefault names default rule fields).issues) :
    ∃ name ∈ names, i.path.head? = some (.field name) := by
  unfold withDefault at h
  split at h
  · next name v hfirst =>
    obtain ⟨_, hname, hn⟩ := List.exists_of_findSome?_eq_some hfirst
    obtain ⟨_, -, heq⟩ := Option.map_eq_some_iff.mp hn
    cases heq
    cases hr : rule v with
    | ok x =>
      rw [hr] at h
      cases h
    | faulty issues =>
      rw [hr] at h
      obtain ⟨j, -, rfl⟩ := List.mem_map.mp h
      exact ⟨name, hname, rfl⟩
  · cases h

theorem issues_withDefault_of_ok {names : List String} {default : α} {rule : Json → Checked α}
    (h : ∀ v, ∃ x, rule v = .ok x) : (withDefault names default rule fields).issues = [] := by
  unfold withDefault
  split
  · next v _ =>
    obtain ⟨x, hx⟩ := h v
    rw [hx]
    rfl
  · rfl

/-- The names under which a request tells its order. -/
def orderNames : List String := ["sortBy", "sort_by", "sortDirection", "sort_direction"]

/-- **Nothing is ever wrong with the order.** -/
theorem path_not_orderNames {i : Issue} (h : i ∈ (read v).issues) :
    ∀ name ∈ orderNames, i.path.head? ≠ some (.field name) := by
  cases v with
  | object fields =>
    have hsortBy : ∀ v, ∃ f, sortField v = .ok f := fun v =>
      (exists_namesField (some v)).imp fun _ => sortField_eq_ok_iff.mpr
    change i ∈ (ofFields fields).issues at h
    simp only [ofFields, Checked.issues_seq, Checked.issues_map, List.mem_append,
      issues_withDefault_of_ok hsortBy, issues_withDefault_of_ok fun _ => ⟨_, rfl⟩,
      List.not_mem_nil, or_false] at h
    intro name hname hpath
    have hclear : ∀ {β : Type} {names : List String} {default : β} {rule : Json → Checked β},
        (∀ other ∈ names, other ∉ orderNames) →
        i ∉ (withDefault names default rule fields).issues := by
      intro β names default rule hnames hi
      obtain ⟨other, hother, hpath'⟩ := head?_path_of_withDefault hi
      rw [hpath, Option.some.injEq, Step.field.injEq] at hpath'
      exact hnames other hother (hpath' ▸ hname)
    rcases h with (((((h | h) | h) | h) | h) | h) | h <;> exact hclear (by decide) h
  | _ =>
    intro name _ hpath
    rw [List.mem_singleton.mp h] at hpath
    cases hpath

/-! ## The requests that are accepted -/

theorem read_eq_ok_iff {r : Request} : read v = .ok r ↔
    ∃ fields, v = .object fields ∧ Describes (fun p => isHalf p = false) fields r := by
  constructor
  · intro h
    obtain ⟨fields, rfl, hr⟩ := object_of_read h
    exact ⟨fields, rfl, ofFields_eq_ok_iff.mp hr⟩
  · rintro ⟨fields, rfl, hr⟩
    exact ofFields_eq_ok_iff.mpr hr

theorem sortField_word (f : SortField) : sortField (.text f.word) = .ok f :=
  sortField_eq_ok_iff.mpr (.word (by cases f <;> decide))

theorem sortDirection_word (d : SortDirection) : sortDirection (.text d.word) = d := by
  cases d <;> decide

/-- **The grammar of requests.** -/
structure ReadsExactly : Prop where
  /-- Those values are accepted that are well-formed, without half a surrogate pair in a filter, and
  no others. -/
  accepted_iff : ∀ v, (∃ r, read v = .ok r) ↔
    ∃ fields, v = .object fields ∧ WellFormed (fun p => isHalf p = false) fields
  /-- The request is the one that the fields describe. -/
  describes : ∀ v r, read v = .ok r →
    ∃ fields, v = .object fields ∧ Describes (fun p => isHalf p = false) fields r
  /-- What a value says of the order is never among what is wrong with it, -/
  order : ∀ v, ∀ i ∈ (read v).issues, ∀ name ∈ orderNames, i.path.head? ≠ some (.field name)
  /-- since a text that passes as the word of a field is always found to be one. -/
  lookup : ∀ s, SortField.all.any (·.word = lower s) ↔ ∃ f, SortField.ofWord? s = some f
  /-- The words of the fields and of the directions stand for these. -/
  fields : ∀ f : SortField, sortField (.text f.word) = .ok f
  directions : ∀ d : SortDirection, sortDirection (.text d.word) = d

/-- **A request is accepted if and only if it is of the grammar.** -/
theorem readsExactly : ReadsExactly where
  accepted_iff v := by
    simp only [read_eq_ok_iff]
    constructor
    · rintro ⟨r, fields, hv, h⟩
      exact ⟨fields, hv, h.wellFormed⟩
    · rintro ⟨fields, hv, h⟩
      obtain ⟨r, hr⟩ := h.exists_describes
      exact ⟨r, fields, hv, hr⟩
  describes v r := read_eq_ok_iff.mp
  order v i := path_not_orderNames
  lookup s := by
    rw [any_word_iff]
    exact exists_congr fun f => SortField.ofWord?_eq_some_iff.symm
  fields := sortField_word
  directions := sortDirection_word

/-- Blank filters are dropped, the others are not trimmed, numbers may be texts, and an odd order is
no error. -/
example : read (.object [("name", .text " an "), ("iso2", .text "\t"),
    ("country_code", .text "1-809"), ("pageNumber", .text "2"), ("page_number", .int 7),
    ("sortBy", .text " IsO3 "), ("sortDirection", .int 1)]) =
      .ok ⟨some " an ", none, none, none, some "1-809", 2, 50, .iso3, .ascending⟩ := by rfl

/-- A request for the countries whose name holds half a surrogate pair. -/
def torn : List (String × Json) := [("name", .torn [0xD800])]

theorem wellFormed_torn : WellFormed (fun _ => True) torn where
  name := ⟨_, .text ⟨0xD800, List.mem_singleton_self _, by decide⟩ (fun _ _ => trivial)
    (by decide : 1 ≤ 100)⟩
  continent := ⟨none, .absent⟩
  iso2 := ⟨none, .absent⟩
  iso3 := ⟨none, .absent⟩
  countryCode := ⟨none, .absent⟩
  pageNumber := ⟨1, .absent⟩
  pageSize := ⟨50, .absent⟩

/-- **Half a surrogate pair is one code point, but no filter**; so not every request is accepted
whose filters have as many code points as they may. -/
theorem not_accepted_torn : ¬((∃ r, read (.object torn) = .ok r) ↔
    ∃ fields, Json.object torn = .object fields ∧ WellFormed (fun _ => True) fields) := by
  intro h
  obtain ⟨r, hr⟩ := h.mpr ⟨torn, rfl, wellFormed_torn⟩
  have hrefused : read (.object torn) =
      .faulty [⟨[.field "name"], .textUnreadable, .torn [0xD800]⟩] := by rfl
  rw [hrefused] at hr
  cases hr

end Request

end Gazetteer.Search
