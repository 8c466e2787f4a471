import Gazetteer.Proofs.Json.RoundTrip

/-!
# Fields that are put together

Of two rows of fields the second is put in on top of the first.  A field that only the first one
has is still there afterwards, and whether it was there makes no difference to the others.

* `fieldName_injective`: fields are found by different names if their code points differ;
* `fieldOf?_put`, `mem_names_put`: what a field that is put in changes;
* `Adds`: fields with one more; `Adds.update`: it is still there when others were put in.
-/

namespace Gazetteer.Json

open Text

variable {name n : String} {v w : Json} {before after fields : List (String × Json)}

/-! ## Names -/

/-- **What stands for a code point in a name**: a character for itself, or more than one character
after the one that announces them. -/
theorem nameChars_cases {p : Nat} (h : p < 0x110000) :
    (p < 0x10000 ∧ nameChars p = Char.ofNat escapePoint :: hexPadded 4 p ∧
      (hexPadded 4 p).head? ≠ some (Char.ofNat escapePoint)) ∨
    (p = escapePoint ∧ nameChars p = [Char.ofNat escapePoint, Char.ofNat escapePoint]) ∨
    ∃ c : Char, c ≠ Char.ofNat escapePoint ∧ p = c.toNat ∧ nameChars p = [c] := by
  unfold nameChars
  split
  · next hhalf =>
    refine Or.inl ⟨?_, rfl, fun hhead => ?_⟩
    · simp only [isHalf, Bool.and_eq_true, decide_eq_true_eq] at hhalf
      omega
    · have hdigit := hexValue?_hexDigit (p / 16 / 16 / 16 % 16) (Nat.mod_lt _ (by decide))
      rw [Option.some.inj (show some (hexDigit _) = _ from hhead)] at hdigit
      cases hdigit
  split
  · next hescape => exact Or.inr (Or.inl ⟨hescape, rfl⟩)
  · next hhalf hescape =>
    have hvalid : p.isValidChar := by
      simp only [isHalf, Bool.and_eq_true, decide_eq_true_eq] at hhalf
      simp only [Nat.isValidChar]
      omega
    have hback : (Char.ofNat p).toNat = p := by rw [toNat_ofNat, if_pos hvalid]
    refine Or.inr (Or.inr ⟨_, fun hc => hescape ?_, hback.symm, rfl⟩)
    rw [← hback, hc]
    rfl

/-- **A code point is told from the front of a name.** -/
theorem nameChars_append_inj {p q : Nat} (hp : p < 0x110000) (hq : q < 0x110000)
    {cs ds : List Char} (h : nameChars p ++ cs = nameChars q ++ ds) : p = q ∧ cs = ds := by
  have hhead (r : Nat) (es : List Char) :
      (hexPadded 4 r ++ es).head? = (hexPadded 4 r).head? := rfl
  rcases nameChars_cases hp with ⟨hp, hchars, hdigits⟩ | ⟨rfl, hchars⟩ | ⟨c, hc, rfl, hchars⟩ <;>
    rcases nameChars_cases hq with
      ⟨hq, hchars', hdigits'⟩ | ⟨rfl, hchars'⟩ | ⟨c', hc', rfl, hchars'⟩
  · -- the digits are as many, and the numbers are read back from them
    rw [hchars, hchars'] at h
    obtain ⟨hpadded, rfl⟩ :=
      List.append_inj (List.cons.inj h).2 (by simp only [length_hexPadded])
    have hvalue := congrArg hexValues? hpadded
    rw [hexValues?_hexPadded, hexValues?_hexPadded, Option.some.injEq, Nat.pow_eq] at hvalue
    exact ⟨by omega, rfl⟩
  · rw [hchars, hchars'] at h
    exact absurd ((hhead p cs).symm.trans (congrArg List.head? (List.cons.inj h).2)) hdigits
  · rw [hchars, hchars'] at h
    exact absurd (List.cons.inj h).1.symm hc'
  · rw [hchars, hchars'] at h
    exact absurd ((hhead q ds).symm.trans (congrArg List.head? (List.cons.inj h).2.symm)) hdigits'
  · rw [hchars] at h
    exact ⟨rfl, List.append_cancel_left h⟩
  · rw [hchars, hchars'] at h
    exact absurd (List.cons.inj h).1.symm hc'
  · rw [hchars, hchars'] at h
    exact absurd (List.cons.inj h).1 hc
  · rw [hchars, hchars'] at h
    exact absurd (List.cons.inj h).1 hc
  · rw [hchars, hchars'] at h
    obtain ⟨rfl, hrest⟩ := List.cons.inj h
    exact ⟨rfl, hrest⟩

theorem nameChars_ne_nil (p : Nat) : nameChars p ≠ [] := by
  unfold nameChars
  split_ifs <;> nofun

/-- **Different rows of code points are different names.** -/
theorem fieldName_injective {points others : List Nat} (hpoints : ∀ p ∈ points, p < 0x110000)
    (hothers : ∀ p ∈ others, p < 0x110000) (h : fieldName points = fieldName others) :
    points = others := by
  replace h := String.ofList_injective h
  induction points generalizing others with
  | nil =>
    cases others with
    | nil => rfl
    | cons q qs => exact absurd (List.append_eq_nil_iff.mp h.symm).1 (nameChars_ne_nil q)
  | cons p ps ih =>
    cases others with
    | nil => exact absurd (List.append_eq_nil_iff.mp h).1 (nameChars_ne_nil p)
    | cons q qs =>
      rw [List.flatMap_cons, List.flatMap_cons] at h
      obtain ⟨rfl, hrest⟩ := nameChars_append_inj (hpoints p List.mem_cons_self)
        (hothers q List.mem_cons_self) h
      rw [ih (fun r hr => hpoints r (List.mem_cons_of_mem p hr))
        (fun r hr => hothers r (List.mem_cons_of_mem p hr)) hrest]

/-! ## Fields put in -/

theorem fieldOf?_cons : fieldOf? n ((name, v) :: fields) =
    if n = name then some v else fieldOf? n fields := by
  unfold fieldOf?
  rw [List.lookup_cons]
  by_cases h : n = name
  · simp [h]
  · rw [beq_false_of_ne h, if_neg h]

theorem fieldOf?_put : fieldOf? n (put name v fields) =
    if n = name then some v else fieldOf? n fields := by
  induction fields with
  | nil => rw [put, fieldOf?_cons]
  | cons f fields ih =>
    obtain ⟨m, w⟩ := f
    rw [put]
    split
    · next hm =>
      subst hm
      rw [fieldOf?_cons, fieldOf?_cons]
      split <;> rfl
    · next hm =>
      rw [fieldOf?_cons, fieldOf?_cons, ih]
      by_cases hn : n = name
      · rw [if_pos hn, if_neg (hn ▸ Ne.symm hm), if_pos hn]
      · rw [if_neg hn, if_neg hn]

theorem mem_names_put : n ∈ (put name v fields).map (·.1) ↔ n = name ∨ n ∈ fields.map (·.1) := by
  induction fields with
  | nil => simp [put]
  | cons f fields ih =>
    rw [put]
    split
    · next hm => simp [hm]
    · rw [List.map_cons, List.mem_cons, ih, List.map_cons, List.mem_cons, or_left_comm]

/-- **Fields with one more**, or with another value of one. -/
structure Adds (name : String) (v : Json) (before after : List (String × Json)) : Prop where
  given : fieldOf? name after = some v
  others : ∀ n, n ≠ name → fieldOf? n after = fieldOf? n before
  names : ∀ n ∈ after.map (·.1), n = name ∨ n ∈ before.map (·.1)

theorem adds_put (name : String) (v : Json) (fields : List (String × Json)) :
    Adds name v fields (put name v fields) where
  given := by rw [fieldOf?_put, if_pos rfl]
  others n hn := by rw [fieldOf?_put, if_neg hn]
  names n hn := mem_names_put.mp hn

theorem adds_cons (name : String) (v : Json) (fields : List (String × Json)) :
    Adds name v fields ((name, v) :: fields) where
  given := by rw [fieldOf?_cons, if_pos rfl]
  others n hn := by rw [fieldOf?_cons, if_neg hn]
  names n hn := List.mem_cons.mp hn

theorem Adds.cons (h : Adds name v before after) (hn : n ≠ name) (w : Json) :
    Adds name v ((n, w) :: before) ((n, w) :: after) where
  given := by rw [fieldOf?_cons, if_neg (Ne.symm hn), h.given]
  others m hm := by rw [fieldOf?_cons, fieldOf?_cons, h.others m hm]
  names m hm := by
    rcases List.mem_cons.mp hm with hm | hm
    · exact Or.inr (hm ▸ List.mem_cons_self)
    · exact (h.names m hm).imp_right (List.mem_cons_of_mem _)

/-- A further field on both sides. -/
theorem Adds.put (h : Adds name v before after) (hn : n ≠ name) (w : Json) :
    Adds name v (Json.put n w before) (Json.put n w after) where
  given := by rw [fieldOf?_put, if_neg (Ne.symm hn), h.given]
  others m hm := by rw [fieldOf?_put, fieldOf?_put, h.others m hm]
  names m hm := by
    rw [mem_names_put] at hm ⊢
    rcases hm with hm | hm
    · exact Or.inr (Or.inl hm)
    · exact (h.names m hm).imp_right Or.inr

/-- Fields are put in one by one. -/
theorem update_cons : update before ((name, v) :: fields) =
    update (Json.put name (((fieldOf? name before).map (merged · v)).getD v) before) fields := by
  rw [update]
  cases h : fieldOf? name before with
  | some old => rfl
  | none =>
    have hnames : name ∉ before.map (·.1) := by
      intro hmem
      obtain ⟨f, hf, rfl⟩ := List.mem_map.mp hmem
      simpa using List.lookup_eq_none_iff.mp h f hf
    rw [put_of_not_mem hnames]
    rfl

/-- **The others are put in on top of it**, and it is still there. -/
theorem Adds.update (h : Adds name v before after) (hf : ∀ f ∈ fields, f.1 ≠ name) :
    Adds name v (Json.update before fields) (Json.update after fields) := by
  induction fields generalizing before after with
  | nil => simpa only [Json.update] using h
  | cons f fields ih =>
    have hn := hf f List.mem_cons_self
    rw [update_cons, update_cons, h.others f.1 hn]
    exact ih (h.put hn _) fun g hg => hf g (List.mem_cons_of_mem _ hg)

end Gazetteer.Json
