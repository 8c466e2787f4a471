import Gazetteer.Proofs.Store.Upkeep
import Gazetteer.Store.Search

/-!
# Tables in which no dialling code is shared

The table of dialling codes allows that two countries have the same one.  It does not come to that
if the values of every write are free, that is, if no other country has one of its dialling codes:
the dialling codes of a country come in together, and with the next write they go out together.  So
in such tables a search for a dialling code finds one country at most, and a code that a country has
given up is spare.

* `Writes`: what a write with free values does to the tables;
* `Exclusive`, `Exclusive.of_writes`: tables in which no dialling code is shared remain so;
* `Exclusive.length_found_le`: what a search for a dialling code finds;
* `Exclusive.spare_of_dropped`: a code that was given up is spare.
-/

namespace Gazetteer.Store

open Country

variable {s t : Store} {now : Instant} {f : Fields} {id : Int} {code : String}

/-! ## Writes with free values -/

/-- **One write at most**, and no other country has a dialling code of its values. -/
inductive Writes (s : Store) : Store → Prop
  | nothing : Writes s s
  | created {now : Instant} {f : Fields} {row : CountryRow} {t : Store}
      (hfree : ∀ k ∈ s.codes, k.code ∉ f.codes)
      (hs : s.create now (columns f) = .ok (row, t)) : Writes s t
  | replaced {now : Instant} {id : Int} {f : Fields} {row : CountryRow} {t : Store}
      (hfree : ∀ k ∈ s.codes, k.countryId ≠ id → k.code ∉ f.codes)
      (hs : s.replace now id (columns f) = .ok (some (row, t))) : Writes s t
  | removed {id : Int} {t : Store} (hs : s.remove id = .ok (some t)) : Writes s t

/-! ## Tables in which no dialling code is shared -/

/-- **No dialling code is shared**, and the rows fit together. -/
structure Exclusive (s : Store) : Prop extends Linked s where
  unshared : ∀ j ∈ s.codes, ∀ k ∈ s.codes, j.code = k.code → j.countryId = k.countryId

theorem exclusive_empty : Exclusive .empty := ⟨linked_empty, nofun⟩

theorem code_mem_of_mem_rowsFrom {n countryId : Int} {isPrimary : Bool} {codes : List String}
    {k : CodeRow} (h : k ∈ rowsFrom n countryId now isPrimary codes) : k.code ∈ codes := by
  rw [← map_code_rowsFrom n countryId now isPrimary codes]
  exact List.mem_map_of_mem h

/-- Rows of one country beside rows that have none of its codes. -/
theorem unshared_append {codes : List CodeRow} {isPrimary : Bool} {n : Int}
    (h : ∀ j ∈ codes, ∀ k ∈ codes, j.code = k.code → j.countryId = k.countryId)
    (hfree : ∀ k ∈ codes, k.code ∉ f.codes) :
    ∀ j ∈ codes ++ rowsFrom n id now isPrimary f.codes,
      ∀ k ∈ codes ++ rowsFrom n id now isPrimary f.codes,
        j.code = k.code → j.countryId = k.countryId := by
  intro j hj k hk hcode
  rcases List.mem_append.mp hj with hj | hj
  · rcases List.mem_append.mp hk with hk | hk
    · exact h j hj k hk hcode
    · exact absurd (hcode ▸ code_mem_of_mem_rowsFrom hk) (hfree j hj)
  · rcases List.mem_append.mp hk with hk | hk
    · exact absurd (hcode ▸ code_mem_of_mem_rowsFrom hj) (hfree k hk)
    · rw [(mem_rowsFrom hj).1, (mem_rowsFrom hk).1]

theorem mem_filter_codes {k : CodeRow} :
    k ∈ s.codes.filter (·.countryId ≠ id) ↔ k ∈ s.codes ∧ k.countryId ≠ id := by
  simp [List.mem_filter]

/-- **A write with free values leaves no dialling code shared.** -/
theorem Exclusive.of_writes (h : s.Exclusive) (hw : Writes s t) : t.Exclusive := by
  cases hw with
  | nothing => exact h
  | created hfree hs =>
    refine ⟨h.toLinked.create hs, ?_⟩
    obtain ⟨-, -, rfl⟩ := create_columns_eq_ok hs
    exact unshared_append h.unshared hfree
  | replaced hfree hs =>
    refine ⟨h.toLinked.replace hs, ?_⟩
    obtain ⟨old, -, -, -, n, rfl⟩ := replace_columns_eq_ok hs
    refine unshared_append (fun j hj k hk => ?_) fun k hk => ?_
    · exact h.unshared j (mem_filter_codes.mp hj).1 k (mem_filter_codes.mp hk).1
    · exact hfree k (mem_filter_codes.mp hk).1 (mem_filter_codes.mp hk).2
  | removed hs =>
    refine ⟨h.toLinked.remove hs, ?_⟩
    obtain rfl := remove_eq_ok hs
    exact fun j hj k hk => h.unshared j (mem_filter_codes.mp hj).1 k (mem_filter_codes.mp hk).1

/-! ## Searching for a dialling code -/

theorem exists_code_of_accepts {request : Search.Request} {c : CountryRow}
    (hcode : request.countryCode = some code) (h : s.accepts request c) :
    ∃ k ∈ s.codes, k.countryId = c.id ∧ k.code = code := by
  simp only [accepts, given, hcode, Bool.and_eq_true, Option.all_some, List.any_eq_true,
    decide_eq_true_eq] at h
  obtain ⟨-, k, hk, hid, hkcode⟩ := h
  exact ⟨k, hk, hid, hkcode⟩

/-- **A search for a dialling code finds one country at most.** -/
theorem Exclusive.length_found_le (h : s.Exclusive) {request : Search.Request}
    (hcode : request.countryCode.isSome) : (s.found request).length ≤ 1 := by
  obtain ⟨code, hcode⟩ := Option.isSome_iff_exists.mp hcode
  have hsame : ∀ c ∈ s.found request, ∀ d ∈ s.found request, c.id = d.id := by
    intro c hc d hd
    obtain ⟨j, hj, hjid, hjcode⟩ := exists_code_of_accepts hcode (List.mem_filter.mp hc).2
    obtain ⟨k, hk, hkid, hkcode⟩ := exists_code_of_accepts hcode (List.mem_filter.mp hd).2
    rw [← hjid, ← hkid]
    exact h.unshared j hj k hk (hjcode.trans hkcode.symm)
  have hids : ((s.found request).map (·.id)).Nodup :=
    h.ids.sublist (List.filter_sublist.map _)
  match hfound : s.found request with
  | [] => exact Nat.zero_le 1
  | [_] => exact Nat.le_refl 1
  | c :: d :: _ =>
    rw [hfound] at hids hsame
    simp only [List.map_cons, List.nodup_cons, List.mem_cons, not_or] at hids
    exact absurd (hsame c (by simp) d (by simp)) hids.1.1

/-! ## Codes that are given up -/

/-- **No country has a dialling code.** -/
def Spare (s : Store) (code : String) : Prop := ∀ k ∈ s.codes, k.code ≠ code

/-- **A country has given up a dialling code**: it had it before, and has it no longer. -/
def Dropped (s t : Store) (code : String) : Prop :=
  ∃ k ∈ s.codes, k.code = code ∧ ∀ l ∈ t.codesOf k.countryId, l.code ≠ code

theorem mem_codesOf {k : CodeRow} : k ∈ s.codesOf id ↔ k ∈ s.codes ∧ k.countryId = id := by
  simp [codesOf, List.mem_filter]

/-- **What is there after a write** was there before, or it is of the one country whose dialling
codes were written; those of the others are still there. -/
theorem mem_codes_of_writes (hw : Writes s t) {l : CodeRow} (hl : l ∈ t.codes) :
    l ∈ s.codes ∨ ∀ k ∈ s.codes, k.countryId = l.countryId ∨ k ∈ t.codes := by
  cases hw with
  | nothing => exact Or.inl hl
  | created hfree hs =>
    obtain ⟨-, -, rfl⟩ := create_columns_eq_ok hs
    exact Or.inr fun k hk => Or.inr (List.mem_append_left _ hk)
  | @replaced now id f row t hfree hs =>
    obtain ⟨old, -, -, -, n, rfl⟩ := replace_columns_eq_ok hs
    rcases List.mem_append.mp hl with hl | hl
    · exact Or.inl (mem_filter_codes.mp hl).1
    · refine Or.inr fun k hk => ?_
      by_cases hid : k.countryId = id
      · exact Or.inl (hid.trans (mem_rowsFrom hl).1.symm)
      · exact Or.inr (List.mem_append_left _ (mem_filter_codes.mpr ⟨hk, hid⟩))
  | removed hs =>
    obtain rfl := remove_eq_ok hs
    exact Or.inl (mem_filter_codes.mp hl).1

/-- **A dialling code that was given up is spare**: nobody else had it, and the country that gave it
up is the only one whose dialling codes were written. -/
theorem Exclusive.spare_of_dropped (h : s.Exclusive) (hw : Writes s t) (hd : Dropped s t code) :
    t.Spare code := by
  obtain ⟨k, hk, rfl, hgone⟩ := hd
  intro l hl hcode
  have hne : l.countryId ≠ k.countryId := fun heq => hgone l (mem_codesOf.mpr ⟨hl, heq⟩) hcode
  rcases mem_codes_of_writes hw hl with hold | hothers
  · exact hne (h.unshared l hold k hk hcode)
  · rcases hothers k hk with heq | hkept
    · exact hne heq.symm
    · exact hgone k (mem_codesOf.mpr ⟨hkept, rfl⟩) rfl

end Gazetteer.Store
