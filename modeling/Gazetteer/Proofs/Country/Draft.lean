import Gazetteer.Country.Draft
import Gazetteer.Proofs.Json.Points

/-!
# What an accepted draft comes to

A draft is checked as it was sent, and stored in another form: trimmed once more, its country codes
in capitals, empty dialling codes left out.  The checks are such that the second form is as good as
the first: trimming once more finds nothing to remove, and letters in capitals are as many letters.

* `fault?_eq_none_iff`, `check_eq_ok_iff`: the texts that a rule accepts;
* `required_eq_ok_iff`, `record_eq_ok_iff`, `itemsAtLeast_eq_ok_iff`: the fields, the records and
  the lists that are accepted;
* `Fields.Valid`: values that may be stored; `valid_of_read`: those of an accepted draft are.
-/

namespace Gazetteer

open Text Validation

theorem Validation.not_isBlank_of_isDialling {c : Char} (h : isDialling c) : isBlank c = false := by
  simp only [isDialling, Bool.or_eq_true, decide_eq_true_eq] at h
  rcases h with (h | rfl) | rfl
  · exact not_isBlank_of_isDecimal h
  · decide
  · decide

/-! ## Rules -/

namespace Validation

theorem TextRule.fault?_eq_none_iff {rule : TextRule} {cs : List Char} :
    rule.fault? cs = none ↔ rule.least ≤ cs.length ∧ (∀ n ∈ rule.greatest, cs.length ≤ n) ∧
      ∀ p ∈ rule.pattern, p.accepts cs := by
  unfold TextRule.fault?
  by_cases hleast : cs.length < rule.least
  · rw [if_pos hleast]
    exact iff_of_false nofun fun h => absurd h.1 (by omega)
  · rw [if_neg hleast]
    cases hg : rule.greatest.filter (· < cs.length) with
    | some n =>
      obtain ⟨hn, hlt⟩ := Option.filter_eq_some_iff.mp hg
      refine iff_of_false nofun fun h => ?_
      have := h.2.1 n hn
      simp only [decide_eq_true_eq] at hlt
      omega
    | none =>
      have hgreatest : ∀ n ∈ rule.greatest, cs.length ≤ n := by
        intro n hn
        have := Option.filter_eq_none_iff.mp hg n hn
        simpa using this
      have hpattern : (rule.pattern.filter (!·.accepts cs)).map Cause.mismatch = none ↔
          ∀ p ∈ rule.pattern, p.accepts cs := by
        rw [Option.map_eq_none_iff, Option.filter_eq_none_iff]
        simp
      rw [hpattern]
      exact ⟨fun h => ⟨by omega, hgreatest, h⟩, fun h => h.2.2⟩

/-- **A rule accepts the texts that meet its demands**, and nothing else. -/
theorem TextRule.check_eq_ok_iff {rule : TextRule} {v : Json} {s : String} :
    rule.check v = .ok s ↔ v = .text s ∧ rule.fault? s.toList = none := by
  unfold TextRule.check
  rw [Checked.andThen_eq_ok_iff]
  constructor
  · rintro ⟨t, ht, h⟩
    cases v with
    | text u =>
      cases ht
      split at h
      · exact absurd h Checked.refuse_ne_ok
      · next hnone =>
        cases h
        exact ⟨rfl, hnone⟩
    | _ => cases ht
  · rintro ⟨rfl, hnone⟩
    exact ⟨s, rfl, by rw [hnone]⟩

theorem required_eq_ok_iff {names : List String} {rule : Json → Checked α}
    {fields : List (String × Json)} {x : α} : required names rule fields = .ok x ↔
      ∃ name v, Json.firstField? names fields = some (name, v) ∧ rule v = .ok x := by
  unfold required
  cases hf : Json.firstField? names fields with
  | none =>
    simp only [Checked.under_eq_ok_iff]
    exact iff_of_false Checked.refuse_ne_ok nofun
  | some nv =>
    obtain ⟨name, v⟩ := nv
    simp only [Checked.under_eq_ok_iff]
    constructor
    · exact fun h => ⟨name, v, rfl, h⟩
    · rintro ⟨_, _, heq, h⟩
      cases heq
      exact h

/-- **A record is read from the fields of an object.** -/
theorem record_eq_ok_iff {cause : Cause} {rule : List (String × Json) → Checked α} {v : Json}
    {x : α} : record cause rule v = .ok x ↔ ∃ fields, v = .object fields ∧ rule fields = .ok x := by
  unfold record
  split
  · next fields =>
    constructor
    · exact fun h => ⟨fields, rfl, h⟩
    · rintro ⟨_, heq, h⟩
      cases heq
      exact h
  · next hne => exact iff_of_false Checked.refuse_ne_ok fun ⟨fields, hv, _⟩ => hne fields hv

/-- **A list is accepted if it is long enough and a rule accepts its items**, one by one. -/
theorem itemsAtLeast_eq_ok_iff {least : Nat} {rule : Json → Checked α} {v : Json} {xs : List α} :
    itemsAtLeast least rule v = .ok xs ↔
      ∃ vs, v = .array vs ∧ vs.map rule = xs.map .ok ∧ least ≤ xs.length := by
  unfold itemsAtLeast
  rw [Checked.andThen_eq_ok_iff]
  constructor
  · rintro ⟨ys, hys, h⟩
    split at h
    · exact absurd h Checked.refuse_ne_ok
    · next hlength =>
      cases h
      unfold items at hys
      split at hys
      · next vs => exact ⟨vs, rfl, Checked.all_eq_ok_iff.mp hys, by omega⟩
      · exact absurd hys Checked.refuse_ne_ok
  · rintro ⟨vs, rfl, hmap, hlength⟩
    exact ⟨xs, Checked.all_eq_ok_iff.mpr hmap, if_neg (by omega)⟩

end Validation

/-! ## Accepted drafts -/

namespace Country

/-- A text of so many characters, without blanks at its ends. -/
structure IsLabel (greatest : Nat) (s : String) : Prop where
  trimmed : trim s = s
  least : 1 ≤ s.toList.length
  greatest : s.toList.length ≤ greatest

/-- So many capital letters. -/
structure IsIsoCode (length : Nat) (s : String) : Prop where
  length : s.toList.length = length
  capital : ∀ c ∈ s.toList, c.isUpper

/-- **A dialling code**: up to 20 digits, hyphens and plus signs. -/
structure IsDiallingCode (s : String) : Prop where
  least : 1 ≤ s.toList.length
  greatest : s.toList.length ≤ 20
  dialling : ∀ c ∈ s.toList, isDialling c

/-- **Values of a country that may be stored.** -/
structure Fields.Valid (f : Fields) : Prop where
  name : IsLabel 100 f.name
  continent : IsLabel 50 f.continent
  iso2 : IsIsoCode 2 f.iso2
  iso3 : IsIsoCode 3 f.iso3
  codes_ne_nil : f.codes ≠ []
  codes : ∀ k ∈ f.codes, IsDiallingCode k

namespace Draft

theorem label_of_check {rule : TextRule} {n : Nat} {v : Json} {s : String} (hn : n ∈ rule.greatest)
    (hl : rule.least = 1) (h : rule.check (trimmed v) = .ok s) : IsLabel n (trim s) := by
  obtain ⟨hv, hfault⟩ := TextRule.check_eq_ok_iff.mp h
  have htrim : trim s = s := by
    cases v with
    | text t =>
      cases hv
      exact trim_trim t
    | torn points =>
      obtain ⟨-, rfl⟩ := Json.ofPoints_eq_text_iff.mp hv
      rw [Json.trim_textOf, Json.trimPoints_trimPoints]
    | _ => cases hv
  obtain ⟨hleast, hgreatest, -⟩ := TextRule.fault?_eq_none_iff.mp hfault
  rw [htrim]
  exact ⟨htrim, hl ▸ hleast, hgreatest n hn⟩

theorem isoCode_of_check {rule : TextRule} {n : Nat} {v : Json} {s : String}
    (hp : .letters n ∈ rule.pattern) (h : rule.check v = .ok s) :
    IsIsoCode n (upper (trim s)) := by
  obtain ⟨-, hfault⟩ := TextRule.check_eq_ok_iff.mp h
  obtain ⟨-, -, hpattern⟩ := TextRule.fault?_eq_none_iff.mp hfault
  have haccepts := hpattern _ hp
  simp only [Pattern.accepts, Bool.and_eq_true, decide_eq_true_eq, List.all_eq_true] at haccepts
  obtain ⟨hlength, halpha⟩ := haccepts
  rw [trim_eq_self fun c hc => not_isBlank_of_isAlpha (halpha c hc)]
  obtain ⟨hupper, hcapital⟩ := upper_of_isAlpha halpha
  exact ⟨hupper.trans hlength, hcapital⟩

theorem diallingCode_of_check {v : Json} {s : String} (h : codeRule.check v = .ok s) :
    IsDiallingCode s ∧ trim s = s := by
  obtain ⟨-, hfault⟩ := TextRule.check_eq_ok_iff.mp h
  obtain ⟨hleast, hgreatest, hpattern⟩ := TextRule.fault?_eq_none_iff.mp hfault
  have haccepts := hpattern .dialling rfl
  simp only [Pattern.accepts, Bool.and_eq_true, List.all_eq_true] at haccepts
  exact ⟨⟨hleast, hgreatest 20 rfl, haccepts.2⟩,
    trim_eq_self fun c hc => not_isBlank_of_isDialling (haccepts.2 c hc)⟩

/-- Codes without blanks of which none is empty are stored as they are. -/
theorem filter_map_trim {codes : List String} (h : ∀ k ∈ codes, IsDiallingCode k ∧ trim k = k) :
    (codes.map trim).filter (· ≠ "") = codes := by
  have hmap : codes.map trim = codes := by
    conv_rhs => rw [← List.map_id codes]
    exact List.map_congr_left fun k hk => (h k hk).2
  rw [hmap, List.filter_eq_self]
  intro k hk
  have hleast := (h k hk).1.least
  simp only [ne_eq, decide_not, Bool.not_eq_true', decide_eq_false_iff_not]
  rintro rfl
  simp at hleast

/-- **The values of an accepted draft may be stored.** -/
theorem valid_of_ofFields {fields : List (String × Json)} {d : Draft}
    (h : ofFields fields = .ok d) :
    d.fields.Valid := by
  simp only [ofFields, Checked.seq_eq_ok_iff, Checked.map_eq_ok_iff, required_eq_ok_iff] at h
  obtain ⟨_, iso3, ⟨_, iso2, ⟨_, codes, ⟨_, continent, ⟨name, ⟨_, v₁, -, hname⟩, rfl⟩,
    ⟨_, v₂, -, hcontinent⟩, rfl⟩, ⟨_, v₃, -, hcodes⟩, rfl⟩, ⟨_, v₄, -, hiso2⟩, rfl⟩,
    ⟨_, v₅, -, hiso3⟩, rfl⟩ := h
  obtain ⟨vs, -, hmap, hleast⟩ := itemsAtLeast_eq_ok_iff.mp hcodes
  have hdialling : ∀ k ∈ codes, IsDiallingCode k ∧ trim k = k := fun k hk => by
    have hmem : Checked.ok k ∈ vs.map codeRule.check := hmap ▸ List.mem_map_of_mem hk
    obtain ⟨w, -, hw⟩ := List.mem_map.mp hmem
    exact diallingCode_of_check hw
  have hcodes' := filter_map_trim hdialling
  refine ⟨label_of_check rfl rfl hname, label_of_check rfl rfl hcontinent,
    isoCode_of_check rfl hiso2, isoCode_of_check rfl hiso3, ?_, ?_⟩
  · simp only [Draft.fields, hcodes']
    exact List.ne_nil_of_length_pos hleast
  · simp only [Draft.fields, hcodes']
    exact fun k hk => (hdialling k hk).1

theorem valid_of_read {notObject : Cause} {v : Json} {d : Draft} (h : read notObject v = .ok d) :
    d.fields.Valid := by
  obtain ⟨fields, -, hfields⟩ := record_eq_ok_iff.mp h
  exact valid_of_ofFields hfields

theorem valid_of_readFor {purpose : Purpose} {v : Json} {d : Draft}
    (h : readFor purpose v = .ok d) : d.fields.Valid := by
  unfold readFor at h
  cases hr : read (.recordExpected purpose.kind) v with
  | ok d' =>
    rw [hr] at h
    cases h
    exact valid_of_read hr
  | faulty issues => rw [hr] at h; cases h

end Draft

end Country

end Gazetteer
