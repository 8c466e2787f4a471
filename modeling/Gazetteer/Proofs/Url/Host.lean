import Gazetteer.Proofs.Number.IntegerText
import Gazetteer.Url.Host

/-!
# Hosts in writing

Whatever a host is written as, the written form holds none of the characters that part an address:
a domain and an address of four numbers hold none at all, and an address of sixteen octets holds
colons, but between brackets.

* `Punycode.not_isForbidden_encode`, `Domain.not_isForbidden_of_toAscii?`: the characters of
  a domain;
* `Host.IsWritten`, `Host.isWritten_of_normalize`: the characters of a written host.
-/

namespace Gazetteer

open Number Text

/-! ## Domains -/

namespace Punycode

theorem not_isForbidden_digit : ∀ n < 36, Domain.isForbidden (digit n) = false := by decide

/-- The digits of a number are less than the base, as long as the fuel lasts. -/
theorem mem_variableLength {bias fuel k n : Nat} (h : n ≤ fuel) {c : Char}
    (hc : c ∈ variableLength bias fuel k n) : ∃ m < 36, c = digit m := by
  induction fuel generalizing k n with
  | zero =>
    rw [variableLength, List.mem_singleton] at hc
    exact ⟨n, by omega, hc⟩
  | succ fuel ih =>
    have hthreshold : 1 ≤ threshold k bias ∧ threshold k bias ≤ 26 := by
      unfold threshold
      split
      · omega
      · split <;> omega
    rw [variableLength] at hc
    split at hc
    · exact ⟨n, by omega, List.mem_singleton.mp hc⟩
    · rcases List.mem_cons.mp hc with rfl | hc
      · have hlt : (n - threshold k bias) % (36 - threshold k bias) < 36 - threshold k bias :=
          Nat.mod_lt _ (by omega)
        exact ⟨_, by omega, rfl⟩
      · refine ih ?_ hc
        calc (n - threshold k bias) / (36 - threshold k bias)
            ≤ n - threshold k bias := Nat.div_le_self _ _
          _ ≤ fuel := by omega

/-- What is left of a property of all characters when one more place is visited. -/
theorem not_isForbidden_visit {n m : Nat} {s : State}
    (h : ∀ c ∈ s.written, Domain.isForbidden c = false) :
    ∀ c ∈ (visit n s m).written, Domain.isForbidden c = false := by
  unfold visit
  split
  · exact h
  · split
    · intro c hc
      rcases List.mem_append.mp hc with hc | hc
      · exact h c hc
      · obtain ⟨d, hd, rfl⟩ := mem_variableLength le_rfl hc
        exact not_isForbidden_digit d hd
    · exact h

/-- **A label in ASCII holds no forbidden character** that it did not hold before. -/
theorem not_isForbidden_encode {codes : List Nat}
    (h : ∀ n ∈ codes, n < 128 → Domain.isForbidden (Char.ofNat n) = false) :
    ∀ c ∈ encode codes, Domain.isForbidden c = false := by
  unfold encode
  dsimp only
  refine List.foldlRecOn (motive := fun x : Nat × State =>
    ∀ c ∈ x.2.written, Domain.isForbidden c = false) _ _ ?_ ?_
  · intro c hc
    rcases List.mem_append.mp hc with hc | hc
    · obtain ⟨n, hn, rfl⟩ := List.mem_map.mp hc
      obtain ⟨hn, hlt⟩ := List.mem_filter.mp hn
      exact h n hn (by simpa using hlt)
    · split at hc
      · cases hc
      · rw [List.mem_singleton.mp hc]
        decide
  · intro x hx m _
    dsimp only
    exact List.foldlRecOn (motive := fun s : State =>
      ∀ c ∈ s.written, Domain.isForbidden c = false) _ _ hx fun s hs _ _ =>
        not_isForbidden_visit hs

end Punycode

theorem Text.mem_joinWith {α : Type} {sep c : α} {parts : List (List α)}
    (h : c ∈ joinWith sep parts) : c = sep ∨ ∃ part ∈ parts, c ∈ part := by
  induction parts with
  | nil => cases h
  | cons part parts ih =>
    cases parts with
    | nil => exact Or.inr ⟨part, List.mem_cons_self, h⟩
    | cons next parts =>
      rw [joinWith, List.mem_append, List.mem_cons] at h
      · rcases h with h | rfl | h
        · exact Or.inr ⟨part, List.mem_cons_self, h⟩
        · exact Or.inl rfl
        · obtain rfl | ⟨p, hp, hc⟩ := ih h
          · exact Or.inl rfl
          · exact Or.inr ⟨p, List.mem_cons_of_mem _ hp, hc⟩
      · simp

/-- **A domain that is looked up holds no forbidden character.** -/
theorem Domain.not_isForbidden_of_toAscii? {cs ds : List Char} (h : toAscii? cs = some ds)
    {c : Char} (hc : c ∈ ds) : isForbidden c = false := by
  unfold toAscii? at h
  obtain ⟨mapped, -, h⟩ := Option.bind_eq_some_iff.mp h
  obtain ⟨meanings, -, h⟩ := Option.bind_eq_some_iff.mp h
  split at h
  · next hall =>
    cases h
    simp only [Bool.and_eq_true, Bool.not_eq_true', List.any_eq_false] at hall
    rcases mem_joinWith hc with rfl | ⟨label, hlabel, hc⟩
    · decide
    · obtain ⟨part, hpart, rfl⟩ := List.mem_map.mp hlabel
      have hplain : ∀ d ∈ part, isForbidden d = false := fun d hd =>
        Bool.not_eq_true _ ▸ hall.1.1 d (mem_of_mem_splitAt hpart hd)
      unfold Punycode.encodeLabel at hc
      split at hc
      · exact hplain c hc
      · rcases List.mem_append.mp hc with hc | hc
        · have hmark : "xn--".toList.all (!isForbidden ·) := by decide
          simpa using List.all_eq_true.mp hmark c hc
        · refine Punycode.not_isForbidden_encode (fun n hn _ => ?_) c hc
          obtain ⟨d, hd, rfl⟩ := List.mem_map.mp hn
          rw [Char.ofNat_toNat]
          exact hplain d hd
  · cases h

/-! ## Hosts -/

namespace Host

/-- **The characters of a host in writing**: none that is forbidden, or colons and hexadecimal
digits in brackets. -/
inductive IsWritten : List Char → Prop
  | plain {cs : List Char} (hne : cs ≠ []) (h : ∀ c ∈ cs, Domain.isForbidden c = false) :
      IsWritten cs
  | bracketed {cs : List Char} (h : ∀ c ∈ cs, c = ':' ∨ ∃ n < 16, c = hexDigit n) :
      IsWritten ('[' :: cs ++ [']'])

theorem IsWritten.ne_nil {cs : List Char} (h : IsWritten cs) : cs ≠ [] := by
  cases h with
  | plain hne => exact hne
  | bracketed => exact List.cons_ne_nil _ _

theorem mem_intercalate {sep : String} {parts : List String} {c : Char}
    (h : c ∈ (String.intercalate sep parts).toList) :
    c ∈ sep.toList ∨ ∃ part ∈ parts, c ∈ part.toList := by
  induction parts with
  | nil => cases h
  | cons part parts ih =>
    cases parts with
    | nil => exact Or.inr ⟨part, List.mem_cons_self, h⟩
    | cons next parts =>
      rw [String.intercalate_cons_cons, String.toList_append, String.toList_append,
        List.mem_append, List.mem_append] at h
      rcases h with (h | h) | h
      · exact Or.inr ⟨part, List.mem_cons_self, h⟩
      · exact Or.inl h
      · exact (ih h).imp_right fun ⟨p, hp, hc⟩ => ⟨p, List.mem_cons_of_mem _ hp, hc⟩

theorem mem_hexPadded {width n : Nat} {c : Char} (h : c ∈ hexPadded width n) :
    ∃ m < 16, c = hexDigit m := by
  induction width generalizing n with
  | zero => cases h
  | succ width ih =>
    rw [hexPadded, List.mem_append, List.mem_singleton] at h
    rcases h with h | h
    · exact ih h
    · exact ⟨n % 16, Nat.mod_lt _ (by decide), h⟩

theorem isWritten_sixteenOctetsText (groups : List Nat) :
    IsWritten (sixteenOctetsText groups).toList := by
  have hgroups : ∀ (gs : List Nat) (c : Char),
      c ∈ (String.intercalate ":" (gs.map fun g => String.ofList (hex g))).toList →
        c = ':' ∨ ∃ n < 16, c = hexDigit n := by
    intro gs c hc
    rcases mem_intercalate hc with hc | ⟨part, hpart, hc⟩
    · exact Or.inl (List.mem_singleton.mp hc)
    · obtain ⟨g, -, rfl⟩ := List.mem_map.mp hpart
      rw [String.toList_ofList] at hc
      exact Or.inr (mem_hexPadded hc)
  unfold sixteenOctetsText
  dsimp only
  split
  · simp only [String.toList_append]
    exact .bracketed (hgroups _)
  · simp only [String.toList_append]
    rw [List.append_assoc "[".toList, List.append_assoc "[".toList]
    refine .bracketed fun c hc => ?_
    simp only [List.append_eq, List.nil_append, List.mem_append] at hc
    rcases hc with (hc | hc) | hc
    · exact hgroups _ c hc
    · exact Or.inl (by simpa using hc)
    · exact hgroups _ c hc

theorem not_isForbidden_of_isDigit {c : Char} (h : c.isDigit) : Domain.isForbidden c = false :=
  of_isDigit (P := fun c => Domain.isForbidden c = false) (by decide) h

theorem isWritten_fourNumbersText (n : Nat) : IsWritten (fourNumbersText n).toList := by
  have hne : (fourNumbersText n).toList ≠ [] := by
    rw [fourNumbersText, List.map_cons, List.map_cons, String.intercalate_cons_cons,
      String.toList_append, String.toList_append]
    simp [natText, natDigits_ne_nil]
  refine .plain hne fun c hc => ?_
  rcases mem_intercalate hc with hc | ⟨part, hpart, hc⟩
  · rw [List.mem_singleton.mp hc]
    decide
  · obtain ⟨m, -, rfl⟩ := List.mem_map.mp hpart
    rw [natText, String.toList_ofList] at hc
    exact not_isForbidden_of_isDigit (isDigit_of_mem_natDigits hc)

/-- **A host is brought into one of these forms.** -/
theorem isWritten_of_normalize {cs : List Char} {s : String} (h : normalize cs = .ok s) :
    IsWritten s.toList := by
  unfold normalize at h
  split at h
  · cases h
  · next rest =>
    cases hb : bracketed rest with
    | error fault => rw [hb] at h; cases h
    | ok groups =>
      rw [hb] at h
      cases h
      exact isWritten_sixteenOctetsText groups
  · split at h
    · cases h
    · cases h
    · next domain hne hd =>
      split at h
      · split at h
        · cases h
          exact isWritten_fourNumbersText _
        · cases h
      · cases h
        rw [String.toList_ofList]
        exact .plain hne fun c hc => Domain.not_isForbidden_of_toAscii? hd hc

end Host

end Gazetteer
