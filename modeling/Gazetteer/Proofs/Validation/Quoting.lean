import Gazetteer.Country.Draft

/-!
# Issues that can be quoted

An issue quotes the offending part of a value, without the fields that are kept back.  That part is
the value itself, a part of it, or what trimming made of one; so if what is told of the value is
whole, every issue can be answered.

* `IsTellable`: what is told of a value is whole; `isTellable_array`, `isTellable_object`: it is so
  if it is so of all parts that are told;
* `Quotable`: all offending parts can be told;
* `quotable_refuse`, `quotable_seq_iff` and their like: each rule quotes nothing else;
* `Draft.quotable_read`: nor does the whole check of a draft.
-/

namespace Gazetteer

open Text Validation

/-! ## Values that can be told -/

namespace Json

/-- **What is told of a value can be written.** -/
def IsTellable (v : Json) : Prop := v.encoded.isWhole

theorem isWholeItems_encodedItems {vs : List Json} :
    isWholeItems (encodedItems vs) ↔ ∀ v ∈ vs, v.IsTellable := by
  induction vs with
  | nil => simp [encodedItems, isWholeItems]
  | cons v vs ih => simp [encodedItems, isWholeItems, IsTellable, ih]

theorem isWholeFields_encodedFields {fields : List (String × Json)} :
    isWholeFields (encodedFields fields) ↔
      ∀ f ∈ fields, isHidden f.1 = false → f.2.IsTellable := by
  induction fields with
  | nil => simp [encodedFields, isWholeFields]
  | cons f fields ih =>
    obtain ⟨name, v⟩ := f
    by_cases h : isHidden name <;> simp [encodedFields, h, isWholeFields, IsTellable, ih]

theorem isTellable_array {vs : List Json} : (array vs).IsTellable ↔ ∀ v ∈ vs, v.IsTellable := by
  rw [IsTellable, encoded, isWhole, isWholeItems_encodedItems]

theorem isTellable_object {fields : List (String × Json)} :
    (object fields).IsTellable ↔ ∀ f ∈ fields, isHidden f.1 = false → f.2.IsTellable := by
  rw [IsTellable, encoded, isWhole, isWholeFields_encodedFields]

/-- A torn text cannot be told. -/
theorem not_isTellable_torn (points : List Nat) : ¬(torn points).IsTellable := nofun

theorem mem_of_firstField? {names : List String} {fields : List (String × Json)} {name : String}
    {v : Json} (h : firstField? names fields = some (name, v)) :
    name ∈ names ∧ (name, v) ∈ fields := by
  obtain ⟨n, hmem, hn⟩ := List.exists_of_findSome?_eq_some h
  obtain ⟨w, hw, heq⟩ := Option.map_eq_some_iff.mp hn
  cases heq
  obtain ⟨before, after, rfl, -⟩ := List.lookup_eq_some_iff.mp hw
  exact ⟨hmem, List.mem_append_right _ List.mem_cons_self⟩

end Json

/-! ## Rules -/

namespace Validation

/-- **Everything that is wrong can be quoted**: the offending parts can be told. -/
def Checked.Quotable (x : Checked α) : Prop := ∀ i ∈ x.issues, i.input.IsTellable

namespace Checked

theorem quotable_ok (a : α) : (Checked.ok a).Quotable := nofun

theorem quotable_refuse {cause : Cause} {v : Json} (h : v.IsTellable) :
    (refuse cause v : Checked α).Quotable := by
  intro i hi
  rw [List.mem_singleton.mp hi]
  exact h

@[simp] theorem issues_map (f : α → β) (x : Checked α) : (f <$> x).issues = x.issues := by
  change (Checked.map f x).issues = _
  cases x <;> rfl

@[simp] theorem issues_seq (f : Checked (α → β)) (x : Checked α) :
    (f <*> x).issues = f.issues ++ x.issues := by
  change (Checked.seq f x).issues = _
  cases f <;> cases x <;> simp [Checked.seq, issues]

theorem quotable_map_iff {f : α → β} {x : Checked α} : (f <$> x).Quotable ↔ x.Quotable := by
  rw [Quotable, issues_map, Quotable]

/-- **A whole can be quoted if its parts can.** -/
theorem quotable_seq_iff {f : Checked (α → β)} {x : Checked α} :
    (f <*> x).Quotable ↔ f.Quotable ∧ x.Quotable := by
  rw [Quotable, issues_seq, List.forall_mem_append, Quotable, Quotable]

theorem quotable_andThen {x : Checked α} {f : α → Checked β} (hx : x.Quotable)
    (hf : ∀ a, x = .ok a → (f a).Quotable) : (x.andThen f).Quotable := by
  cases x with
  | ok a => exact hf a rfl
  | faulty issues => exact hx

theorem quotable_under_iff {step : Step} {x : Checked α} :
    (x.under step).Quotable ↔ x.Quotable := by
  cases x with
  | ok a => exact iff_of_true (quotable_ok a) (quotable_ok a)
  | faulty issues =>
    change (∀ i ∈ issues.map (·.under step), i.input.IsTellable) ↔ _
    rw [List.forall_mem_map]
    rfl

theorem quotable_allFrom {f : β → Checked α} {place : Nat} {ys : List β}
    (h : ∀ y ∈ ys, (f y).Quotable) : (allFrom f place ys).Quotable := by
  induction ys generalizing place with
  | nil => exact quotable_ok []
  | cons y ys ih =>
    have hy : ((f y).under (.item place)).Quotable :=
      quotable_under_iff.mpr (h y List.mem_cons_self)
    exact quotable_seq_iff.mpr
      ⟨quotable_map_iff.mpr hy, ih fun z hz => h z (List.mem_cons_of_mem y hz)⟩

end Checked

open Checked

theorem quotable_anyText {v : Json} (h : v.IsTellable) : (anyText v).Quotable := by
  unfold anyText
  split
  · exact quotable_ok _
  · exact quotable_refuse h
  · exact quotable_refuse h

theorem TextRule.quotable_check (rule : TextRule) {v : Json} (h : v.IsTellable) :
    (rule.check v).Quotable := by
  refine quotable_andThen (quotable_anyText h) fun s _ => ?_
  split
  · exact quotable_refuse h
  · exact quotable_ok s

theorem quotable_integer {v : Json} (h : v.IsTellable) : (integer v).Quotable := by
  unfold integer
  split
  · exact quotable_ok _
  · exact quotable_ok _
  · split
    · exact quotable_ok _
    · exact quotable_refuse h
    · exact quotable_refuse h
  · split
    · exact quotable_ok _
    · exact quotable_refuse h
  · exact quotable_refuse h
  · exact quotable_refuse h

theorem quotable_itemsAtLeast (least : Nat) {rule : Json → Checked α} {v : Json}
    (h : v.IsTellable) (hrule : ∀ w : Json, w.IsTellable → (rule w).Quotable) :
    (itemsAtLeast least rule v).Quotable := by
  refine quotable_andThen ?_ fun xs _ => ?_
  · unfold items
    split
    · next vs => exact quotable_allFrom fun w hw => hrule w (Json.isTellable_array.mp h w hw)
    · exact quotable_refuse h
  · split
    · exact quotable_refuse h
    · exact quotable_ok xs

/-- **A field is quoted as it is, a missing one by the record.** -/
theorem quotable_required {names : List String} (hn : ∀ n ∈ names, Json.isHidden n = false)
    {rule : Json → Checked α} {fields : List (String × Json)} (h : (Json.object fields).IsTellable)
    (hrule : ∀ v : Json, v.IsTellable → (rule v).Quotable) :
    (required names rule fields).Quotable := by
  unfold required
  split
  · next name v hf =>
    obtain ⟨hname, hmem⟩ := Json.mem_of_firstField? hf
    exact quotable_under_iff.mpr
      (hrule v (Json.isTellable_object.mp h (name, v) hmem (hn name hname)))
  · exact quotable_under_iff.mpr (quotable_refuse h)

theorem quotable_record {cause : Cause} {rule : List (String × Json) → Checked α} {v : Json}
    (h : v.IsTellable)
    (hrule : ∀ fields, (Json.object fields).IsTellable → (rule fields).Quotable) :
    (record cause rule v).Quotable := by
  unfold record
  split
  · next fields => exact hrule fields h
  · exact quotable_refuse h

end Validation

/-! ## Drafts -/

namespace Country.Draft

open Checked

theorem isTellable_trimmed {v : Json} (h : v.IsTellable) : (trimmed v).IsTellable := by
  unfold trimmed
  split
  · rfl
  · exact absurd h (Json.not_isTellable_torn _)
  · exact h

theorem isTellable_codeList {v : Json} (h : v.IsTellable) : (codeList v).IsTellable := by
  unfold codeList
  split
  · next s =>
    rw [Json.isTellable_array, List.forall_mem_map]
    exact fun _ _ => rfl
  · exact absurd h (Json.not_isTellable_torn _)
  · next vs =>
    rw [Json.isTellable_array, List.forall_mem_map]
    exact fun w hw => isTellable_trimmed (Json.isTellable_array.mp h w hw)
  · exact h

/-- **Everything that is wrong with the draft of a value that can be told can be quoted.** -/
theorem quotable_read (notObject : Cause) {v : Json} (h : v.IsTellable) :
    (read notObject v).Quotable := by
  have hshown : ∀ n ∈ "name" :: "continent" :: "iso2" :: "iso3" :: codesNames,
      Json.isHidden n = false := by decide +kernel
  simp only [List.forall_mem_cons] at hshown
  obtain ⟨hname, hcontinent, hiso2, hiso3, hcodes⟩ := hshown
  refine quotable_record h fun fields hf => ?_
  replace hname := quotable_required (List.forall_mem_singleton.mpr hname) hf fun v hv =>
    nameRule.quotable_check (isTellable_trimmed hv)
  replace hcontinent := quotable_required (List.forall_mem_singleton.mpr hcontinent) hf fun v hv =>
    continentRule.quotable_check (isTellable_trimmed hv)
  replace hcodes := quotable_required hcodes hf fun v hv =>
    quotable_itemsAtLeast 1 (isTellable_codeList hv) fun w hw => codeRule.quotable_check hw
  replace hiso2 := quotable_required (List.forall_mem_singleton.mpr hiso2) hf fun v hv =>
    iso2Rule.quotable_check hv
  replace hiso3 := quotable_required (List.forall_mem_singleton.mpr hiso3) hf fun v hv =>
    iso3Rule.quotable_check hv
  simp only [ofFields, quotable_seq_iff, quotable_map_iff]
  exact ⟨⟨⟨⟨hname, hcontinent⟩, hcodes⟩, hiso2⟩, hiso3⟩

end Country.Draft

end Gazetteer
