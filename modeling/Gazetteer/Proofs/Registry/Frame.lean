import Gazetteer.Proofs.Registry.Tables
import Gazetteer.Proofs.Store.Frame

/-!
# What a successful write does to a registry

Whatever has been done to a registry before, also behind its back, every dialling code belongs to a
country.  So a number that no country has is not in use at all, and the next country that gets it
has no dialling codes but its own; and as a write touches the rows of one country only, all others
keep theirs.

* `WritesRows`, `writesRows_of_reachable`: the rows after a successful creation, update or deletion;
* `writesRows_added`: an update where a dialling code was added directly.
-/

namespace Gazetteer.Registry

open Store Country

variable {r : Registry}

/-- **What the successful writes to a registry do to its rows.** -/
structure WritesRows (r : Registry) : Prop where
  /-- A country is created under a number that was not in use, with the values of the draft. -/
  created : ∀ (d : Draft) detail r', r.create d = (.ok detail, r') → ∃ now, r.now = .ok now ∧
    (∀ c ∈ r.store.countries, c.id ≠ detail.id) ∧
      (∀ k ∈ r.store.codes, k.countryId ≠ detail.id) ∧ OnlyOn detail.id r.store r'.store ∧
        r'.store.HasCountry ⟨detail.id, d.fields.name, d.fields.continent, d.fields.iso2,
          d.fields.iso3, now, now⟩ d.fields.codes
  /-- A country that is updated keeps its number and the date of its creation; all its other values
  and all its dialling codes are replaced by those of the draft. -/
  updated : ∀ id (d : Draft) detail r', r.update id d = (.ok (some detail), r') →
    ∃ now old, r.now = .ok now ∧ r.store.countries.filter (·.id = id) = [old] ∧
      OnlyOn id r.store r'.store ∧
        r'.store.HasCountry ⟨id, d.fields.name, d.fields.continent, d.fields.iso2, d.fields.iso3,
          old.created, now⟩ d.fields.codes
  /-- Of a country that is deleted nothing is left. -/
  deleted : ∀ id r', r.delete id = (.ok true, r') → (∃ c ∈ r.store.countries, c.id = id) ∧
    OnlyOn id r.store r'.store ∧ (∀ c ∈ r'.store.countries, c.id ≠ id) ∧
      ∀ k ∈ r'.store.codes, k.countryId ≠ id

/-- **A successful write touches the rows of one country only**, in every registry that operations
lead to, dialling codes that were added directly included. -/
theorem writesRows_of_reachable (h : r.Reachable) : r.WritesRows where
  created d detail r' hd := by
    have hlinked := h.linked
    rcases r.create_cases d with ⟨now, row, t, hnow, hs, hr⟩ | ⟨fault, hr⟩
    · rw [hr] at hd
      cases hd
      have hnew := id_ne_of_create hs
      have hcountry := hlinked.hasCountry_create hs
      obtain ⟨hrow, -, -⟩ := create_columns_eq_ok hs
      refine ⟨now, hnow, hnew, fun k hk => ?_, hlinked.onlyOn_create hs, ?_⟩
      · obtain ⟨c, hc, hid⟩ := hlinked.owned k hk
        exact hid ▸ hnew c hc
      · rw [hrow] at hcountry ⊢
        exact hcountry
    · rw [hr] at hd
      cases hd
  updated id d detail r' hd := by
    have hlinked := h.linked
    rcases r.update_cases id d with ⟨now, row, t, hnow, hs, hr⟩ | ⟨x, hr, hx⟩
    · rw [hr] at hd
      cases hd
      have hcountry := hlinked.hasCountry_replace hs
      obtain ⟨old, hold, hrow, -⟩ := replace_columns_eq_ok hs
      obtain ⟨hmem, rfl⟩ := mem_of_country?_eq_some hold
      rw [hrow] at hcountry
      exact ⟨now, old, hnow, filter_id_of_mem hlinked.ids hmem, hlinked.onlyOn_replace hs,
        hcountry⟩
    · rw [hr] at hd
      exact absurd (congrArg Prod.fst hd) (hx detail)
  deleted id r' hd := by
    have hlinked := h.linked
    rcases r.delete_cases id with ⟨t, hs, hr⟩ | ⟨x, hr, hx⟩
    · rw [hr] at hd
      cases hd
      refine ⟨mem_of_remove hs, hlinked.onlyOn_remove hs, fun c hc => ?_, fun k hk => ?_⟩
      · obtain rfl := remove_eq_ok hs
        simpa using (List.mem_filter.mp hc).2
      · obtain rfl := remove_eq_ok hs
        simpa using (List.mem_filter.mp hk).2
    · rw [hr] at hd
      exact absurd (congrArg Prod.fst hd) hx

/-- Two countries, to the first of which a dialling code was added directly. -/
def added : Registry :=
  let writes : List Operation :=
    [.createRow (columns ⟨"Norway", "Europe", "NO", "NOR", ["47"]⟩) true,
      .createRow (columns ⟨"Finland", "Europe", "FI", "FIN", ["358"]⟩) true,
      .addCode (some 1) (some "0047") false, .advance (.whole 60)]
  writes.foldl (fun r op => (r.perform op).2) ⟨.empty, .empty 10 true, 0, ⟨60, 60⟩⟩

/-- Both its codes are replaced by the new ones, and the other country stays as it is. -/
theorem writesRows_added :
    let d : Draft := ⟨"Norge", "Europe", ["+47", "+4779"], "no", "nor"⟩
    added.Reachable ∧ OnlyOn 1 added.store (added.update 1 d).2.store ∧
      (added.update 1 d).2.store =
        ⟨[⟨1, "Norge", "Europe", "NO", "NOR", 0, 60000000⟩,
          ⟨2, "Finland", "Europe", "FI", "FIN", 0, 0⟩],
        [⟨2, 2, "358", true, 0, 0⟩, ⟨3, 1, "+47", true, 60000000, 60000000⟩,
          ⟨4, 1, "+4779", false, 60000000, 60000000⟩]⟩ := by
  intro d
  have hreachable : added.Reachable := .perform _ (.perform _ (.perform _ (.perform _
    (.empty 10 true 0 ⟨60, 60⟩))))
  have hdone : (added.update 1 d).1.toOption.join.isSome := by decide +kernel
  refine ⟨hreachable, ?_, by decide +kernel⟩
  have hwrites := (writesRows_of_reachable hreachable).updated 1 d
  generalize added.update 1 d = x at hwrites hdone ⊢
  obtain ⟨fault | (_ | detail), r'⟩ := x
  · cases hdone
  · cases hdone
  · obtain ⟨now, old, -, -, honly, -⟩ := hwrites detail r' rfl
    exact honly

end Gazetteer.Registry
