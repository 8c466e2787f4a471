import Gazetteer.Proofs.Country.Resent
import Gazetteer.Proofs.Registry.Conflicts
import Gazetteer.Proofs.Store.Dialling

/-!
# A country is written over itself

If a country gets the values that it has already, nothing clashes: its name, its codes and its
dialling codes are those of no other country.  The write puts in new rows of dialling codes, but the
same dialling codes in the same order, of which the first is the primary one, so that the country is
told as before.

* `Detail.Alike`: countries that are told alike;
* `not_clash_fieldsOf`: nothing clashes with the values of a country but the country itself;
* `Tidy.alike_of_replace`: after it was written over itself, a country is told as before.
-/

namespace Gazetteer

open Country Store

/-- **Countries that are told alike**: they differ only in the date of the last modification and in
the numbers of their dialling codes. -/
structure Country.Detail.Alike (d e : Detail) : Prop where
  id : e.id = d.id
  name : e.name = d.name
  continent : e.continent = d.continent
  primaryCode : e.primaryCode = d.primaryCode
  codes : (e.codes.map fun k => (k.code, k.isPrimary)) = d.codes.map fun k => (k.code, k.isPrimary)
  iso2 : e.iso2 = d.iso2
  iso3 : e.iso3 = d.iso3
  created : e.created = d.created

namespace Country.Detail.Alike

variable {d e f : Detail}

theorem refl (d : Detail) : d.Alike d := ⟨rfl, rfl, rfl, rfl, rfl, rfl, rfl, rfl⟩

theorem trans (h : d.Alike e) (h' : e.Alike f) : d.Alike f :=
  ⟨h'.id.trans h.id, h'.name.trans h.name, h'.continent.trans h.continent,
    h'.primaryCode.trans h.primaryCode, h'.codes.trans h.codes, h'.iso2.trans h.iso2,
    h'.iso3.trans h.iso3, h'.created.trans h.created⟩

/-- Countries that are told alike have the same values. -/
theorem stored_eq (h : d.Alike e) : e.stored = d.stored := by
  have hcodes := congrArg (List.map Prod.fst) h.codes
  simp only [List.map_map, Function.comp_def] at hcodes
  rw [stored, stored, h.name, h.continent, h.iso2, h.iso3, hcodes]

theorem body_eq (h : d.Alike e) : e.body = d.body := by rw [body, body, h.stored_eq]

end Country.Detail.Alike

namespace Store

variable {s t : Store} {c row : CountryRow} {id : Int} {now : Instant}

/-- **The values of a country that are stored.** -/
def fieldsOf (s : Store) (c : CountryRow) : Fields :=
  ⟨c.name, c.continent, c.iso2, c.iso3, (s.codesOf c.id).map (·.code)⟩

theorem stored_detail (s : Store) (c : CountryRow) : (s.detail c).stored = s.fieldsOf c := by
  simp [Detail.stored, detail, fieldsOf, codeDetail, Function.comp_def]

/-! ## Nothing clashes -/

/-- Values by which countries differ are those of one country. -/
theorem value_ne_of_nodup {value : CountryRow → String} (h : (s.countries.map value).Nodup)
    {c d : CountryRow} (hc : c ∈ s.countries) (hd : d ∈ s.countries) (hne : d.id ≠ c.id) :
    value d ≠ value c :=
  fun heq => hne (congrArg (·.id) (List.inj_on_of_nodup_map h hd hc heq))

/-- **Nothing clashes with the values of a country** but the country itself. -/
theorem not_clash_fieldsOf (h : s.Tidy) (hx : s.Exclusive) (hc : c ∈ s.countries) :
    ∀ m ∈ (s.fieldsOf c).marks, ¬s.Clash (some c.id) m := by
  refine forall_not_clash_iff.mpr ⟨fun d hd hne => ?_, fun k hk hne hcode => ?_⟩
  · have hne : d.id ≠ c.id := fun heq => hne (congrArg some heq)
    exact ⟨value_ne_of_nodup h.names hc hd hne, value_ne_of_nodup h.iso2 hc hd hne,
      value_ne_of_nodup h.iso3 hc hd hne⟩
  · obtain ⟨l, hl, heq⟩ := List.mem_map.mp hcode
    obtain ⟨hl, hown⟩ := mem_codesOf.mp hl
    exact hne (congrArg some ((hx.unshared k hk l hl heq.symm).trans hown))

/-! ## The write -/

/-- Rows of the same dialling codes, put in at two times. -/
theorem map_rowsFrom_congr (m n : Int) (countryId : Int) (now later : Instant) (isPrimary : Bool)
    (codes : List String) :
    ((rowsFrom m countryId now isPrimary codes).map fun k => (k.code, k.isPrimary)) =
      (rowsFrom n countryId later isPrimary codes).map fun k => (k.code, k.isPrimary) := by
  induction codes generalizing m n isPrimary with
  | nil => rfl
  | cons code codes ih => simp only [rowsFrom, List.map_cons, ih (m + 1) (n + 1)]

/-- The primary dialling code follows from the dialling codes and which of them are primary. -/
theorem primaryCode?_eq (codes : List CodeRow) : primaryCode? codes =
    ((codes.map fun k => (k.code, k.isPrimary)).find? (·.2)).map (·.1) := by
  rw [primaryCode?, List.find?_map, Option.map_map]
  rfl

/-- **After it was written over itself, a country is told as before.** -/
theorem Tidy.alike_of_replace (h : s.Tidy) (hc : s.country? id = some c)
    (hs : s.replace now id (columns (s.fieldsOf c)) = .ok (some (row, t))) :
    (s.detail c).Alike (t.detail row) := by
  obtain ⟨hmem, rfl⟩ := mem_of_country?_eq_some hc
  obtain ⟨old, hold, hrow, -, n, ht⟩ := replace_columns_eq_ok hs
  obtain rfl : old = c := Option.some.inj (hold.symm.trans hc)
  obtain ⟨m, hwritten⟩ := (h.written old hmem).written
  have hnew : t.codesOf row.id = rowsFrom n old.id now true (s.fieldsOf old).codes := by
    rw [ht, hrow]
    exact codesOf_replaced_self s _ n _
  have hcodes : ((t.codesOf row.id).map fun k => (k.code, k.isPrimary)) =
      (s.codesOf old.id).map fun k => (k.code, k.isPrimary) := by
    rw [hnew, hwritten]
    exact map_rowsFrom_congr n m old.id now old.modified true _
  have hprimary : primaryCode? (t.codesOf row.id) = primaryCode? (s.codesOf old.id) := by
    rw [primaryCode?_eq, primaryCode?_eq, hcodes]
  have htold : ((t.detail row).codes.map fun k => (k.code, k.isPrimary)) =
      (s.detail old).codes.map fun k => (k.code, k.isPrimary) := by
    simpa only [detail, codeDetail, List.map_map, Function.comp_def] using hcodes
  refine ⟨?_, ?_, ?_, hprimary, htold, ?_, ?_, ?_⟩ <;> rw [detail, hrow] <;> rfl

end Store

end Gazetteer
