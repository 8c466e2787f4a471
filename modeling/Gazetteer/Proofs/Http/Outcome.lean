import Gazetteer.Proofs.Http.Address
import Gazetteer.Proofs.Http.Writing

/-!
# The answer to a write, case by case

A request to create or to replace a country falls under one of a few cases, and which one it is
decides the status of its answer.  Only a write that succeeds changes the tables; of a draft that
clashes the first clash is told; and whoever asks for the country right after a write is told what
was written.

* `Decides`: a table of cases decides a status;
* `InService`: the sites that are spoken of; `told_after_write`: the reading after a write;
* `createCases`, `updateCases`: the two tables;
* `createOutcome`, `updateOutcome`: what comes of the two requests;
* `outcome_of_inService`: both, and the bodies for which nothing goes wrong.
-/

namespace Gazetteer.Http

open Country Number Store Validation

/-! ## Tables of cases -/

/-- **A table of cases decides a status**: one of the cases holds, and the status is the one that
stands beside a case if and only if it holds. -/
structure Decides (table : List (Nat × Prop)) (status : Nat) : Prop where
  complete : ∃ c ∈ table, c.2
  row : ∀ c ∈ table, (status = c.1 ↔ c.2)

/-- It is enough that each case leads to its own status. -/
theorem decides_of_forall {table : List (Nat × Prop)} {status : Nat}
    (hne : (table.map (·.1)).Nodup) (hone : ∃ c ∈ table, c.2)
    (h : ∀ c ∈ table, c.2 → status = c.1) : Decides table status := by
  refine ⟨hone, fun c hc => ⟨fun hstatus => ?_, h c hc⟩⟩
  obtain ⟨e, he, hcase⟩ := hone
  have heq : e = c := List.inj_on_of_nodup_map hne he hc ((h e he hcase).symm.trans hstatus)
  exact heq ▸ hcase

namespace Site

variable {site : Site} {r : Request} {segment : List Char} {d : Draft} {id : Int}

/-! ## A site in service -/

/-- The path of the countries holds no braces, and nothing that the header of a response cannot
hold. -/
structure IsPlain (site : Site) : Prop where
  braces : '\x7b' ∉ site.base
  header : ∀ c ∈ site.base, isHeaderPart c

/-- **A site in service**: requests have led to it, it has tables, and its clock shows a time that
can be told and at which lifetimes can begin. -/
structure InService (site : Site) : Prop where
  reached : site.Reachable Quantity.Le
  plain : site.IsPlain
  tables : site.hasTables
  timely : ∃ now, site.registry.now = .ok now
  ends : site.registry.lifetimes.HaveEnds site.registry.clock

theorem Reachable.routes_eq {Passes : Quantity → Quantity → Prop} (h : site.Reachable Passes)
    (hbraces : '\x7b' ∉ site.base) : site.routes = plainRoutes site.base :=
  Except.ok.inj ((h.routes hbraces).symm.trans (mapM_route hbraces))

theorem InService.routes (h : site.InService) : site.routes = plainRoutes site.base :=
  h.reached.routes_eq h.plain.braces

/-- **A site in service stays in service**, whatever it is asked. -/
theorem InService.handle (h : site.InService) (r : Request) : (site.handle r).2.InService := by
  obtain ⟨registry, heffect, hr⟩ := handle_frame site r
  obtain ⟨hclock, hlifetimes⟩ := heffect.change.frame
  refine ⟨.handle r h.reached, ?_, ?_, ?_, ?_⟩
  · rw [hr]
    exact ⟨h.plain.braces, h.plain.header⟩
  · rw [hr]
    exact h.tables
  · obtain ⟨now, hnow⟩ := h.timely
    refine ⟨now, ?_⟩
    rw [hr]
    unfold Registry.now Registry.sweep at *
    rw [hclock]
    exact hnow
  · have hends := h.ends
    rw [← hclock, ← hlifetimes] at hends
    rw [hr]
    exact hends

/-- The address of a country can be told. -/
theorem InService.tellsAddress (h : site.InService) : site.tellsAddress := by
  unfold Site.tellsAddress
  rw [h.routes, Bool.and_eq_true, List.all_eq_true]
  refine ⟨h.plain.header, ?_⟩
  simp only [plainRoutes, Template.below, List.all_cons, List.all_nil, Template.names_letters,
    Template.names_append]
  decide +kernel

theorem handle_create (h : site.InService) (hverb : r.verb = "POST") (hpath : r.path = site.base) :
    site.handle r = (Origins.mark site.origins r (site.serve r [] .create).1,
      { site with registry := (site.serve r [] .create).2.sweep }) := by
  refine handle_eq (by rw [hverb]; decide) (by rw [hverb]; decide) ?_
  rw [hverb, hpath, h.routes, dispatch_create]

theorem handle_update (h : site.InService) (hverb : r.verb = "PUT") (hne : segment ≠ [])
    (hslash : '/' ∉ segment) (hpath : r.path = site.base ++ '/' :: segment) :
    site.handle r = (Origins.mark site.origins r (site.serve r segment .update).1,
      { site with registry := (site.serve r segment .update).2.sweep }) := by
  refine handle_eq (by rw [hverb]; decide) (by rw [hverb]; decide) ?_
  rw [hverb, hpath, h.routes, dispatch_update hne hslash]

/-- A request for a country, by its number. -/
structure Asks (site : Site) (id : Int) (r : Request) : Prop where
  verb : r.verb = "GET"
  path : r.path = site.base ++ '/' :: (intText id).toList

/-- The site after a write. -/
def afterWrite (site : Site) (t : Store) : Site :=
  { site with registry := (site.registry.wrote t).sweep }

/-- **Who asks right after a write is told what was written.** -/
theorem told_after_write {row : CountryRow} {t : Store} (h : site.InService) (hfits : fits id)
    (hrow : t.country? id = some row) {g : Request} (hg : site.Asks id g) :
    ((site.afterWrite t).handle g).1.status = 200 ∧
      ((site.afterWrite t).handle g).1.content = .json (t.detail row).json := by
  have hdispatch : dispatch (site.afterWrite t).routes g.verb g.path =
      .to .country (intText id).toList := by
    rw [hg.verb, hg.path, afterWrite, h.routes, dispatch_intText]
  have hfresh : (site.afterWrite t).registry.Fresh :=
    Registry.fresh_sweep (Registry.fresh_wrote h.reached.fresh t)
  have htold := country_of_stored (site.afterWrite t) (r := g) hfresh h.ends h.tables hfits hrow
    (idParameter_intText hfits)
  rw [handle_eq (by rw [hg.verb]; decide) (by rw [hg.verb]; decide) hdispatch]
  dsimp only [Origins.mark]
  rw [htold]
  exact ⟨rfl, rfl⟩

/-! ## The whole table -/

/-- **The cases of a request to create a country**, each beside the status that it leads to. -/
def createCases (site : Site) (r : Request) : List (Nat × Prop) :=
  [(400, (∀ d, ¬Carries r d) ∧ Quotable r),
    (500, (∀ d, ¬Carries r d) ∧ ¬Quotable r),
    (409, ∃ d, Carries r d ∧ ∃ m ∈ d.fields.marks, site.registry.store.Clash none m),
    (201, ∃ d, Carries r d ∧ ∀ m ∈ d.fields.marks, ¬site.registry.store.Clash none m)]

/-- **What comes of a request to create a country.** -/
structure CreateOutcome (site : Site) (r : Request) : Prop where
  decided : Decides (site.createCases r) (site.handle r).1.status
  /-- The first clash is told. -/
  first : ∀ d before m after, Carries r d → d.fields.marks = before ++ m :: after →
    site.registry.store.Clash none m → (∀ l ∈ before, ¬site.registry.store.Clash none l) →
    (site.handle r).1.content = (conflictAnswer ⟨m.1, m.2⟩).content
  unchanged : (site.handle r).1.status ≠ 201 →
    (site.handle r).2.registry.store = site.registry.store
  /-- Who goes to the address of the new country is told the same. -/
  told : (site.handle r).1.status = 201 →
    ∃ id, (site.handle r).1.location = some (site.countryAddress r id) ∧
      (fits id → ∀ g, site.Asks id g → ((site.handle r).2.handle g).1.status = 200 ∧
        ((site.handle r).2.handle g).1.content = (site.handle r).1.content)

/-- **The cases of a request to replace a country.** -/
def updateCases (site : Site) (segment : List Char) (r : Request) : List (Nat × Prop) :=
  [(400, (∀ id d, ¬Replaces segment r id d) ∧ Quotable r),
    (500, (∀ id d, ¬Replaces segment r id d) ∧ ¬Quotable r),
    (404, ∃ id d, Replaces segment r id d ∧ site.registry.store.country? id = none),
    (409, ∃ id d, Replaces segment r id d ∧ (site.registry.store.country? id).isSome ∧
      ∃ m ∈ d.fields.marks, site.registry.store.Clash (some id) m),
    (200, ∃ id d, Replaces segment r id d ∧ (site.registry.store.country? id).isSome ∧
      ∀ m ∈ d.fields.marks, ¬site.registry.store.Clash (some id) m)]

/-- **What comes of a request to replace a country.** -/
structure UpdateOutcome (site : Site) (segment : List Char) (r : Request) : Prop where
  decided : Decides (site.updateCases segment r) (site.handle r).1.status
  /-- The first clash is told. -/
  first : ∀ id d before m after, Replaces segment r id d →
    (site.registry.store.country? id).isSome → d.fields.marks = before ++ m :: after →
    site.registry.store.Clash (some id) m →
    (∀ l ∈ before, ¬site.registry.store.Clash (some id) l) →
    (site.handle r).1.content = (conflictAnswer ⟨m.1, m.2⟩).content
  unchanged : (site.handle r).1.status ≠ 200 →
    (site.handle r).2.registry.store = site.registry.store
  /-- Who asks for the country is told the same. -/
  told : (site.handle r).1.status = 200 → ∃ id, idParameter segment = .ok id ∧
    ∀ g, site.Asks id g → ((site.handle r).2.handle g).1.status = 200 ∧
      ((site.handle r).2.handle g).1.content = (site.handle r).1.content

/-! ### A new country -/

section Create

variable (h : site.InService) (hverb : r.verb = "POST") (hpath : r.path = site.base)
include h hverb hpath

theorem handle_create_refused (hd : ∀ d, ¬Carries r d) :
    (site.handle r).2.registry.store = site.registry.store ∧
      (Quotable r → (site.handle r).1.status = 400) ∧
      (¬Quotable r → (site.handle r).1.status = 500) := by
  have hrefused := create_refused site [] hd
  rw [handle_create h hverb hpath, hrefused.1]
  exact ⟨rfl, hrefused.2⟩

theorem handle_create_clashing (hd : Carries r d) {c : Conflict}
    (hc : site.registry.conflict d none = .ok (some c)) :
    site.handle r = (Origins.mark site.origins r (conflictAnswer c), site.sweep) := by
  rw [handle_create h hverb hpath, serve_create_of_carries h.tables hd, create_clashing hc]
  rfl

theorem handle_create_written (hd : Carries r d)
    (hc : site.registry.conflict d none = .ok none) :
    ∃ row t, t.country? row.id = some row ∧
      (site.handle r).1.status = 201 ∧ (site.handle r).1.content = .json (t.detail row).json ∧
      (site.handle r).1.location = some (site.countryAddress r row.id) ∧
      (site.handle r).2 = site.afterWrite t := by
  obtain ⟨now, hnow⟩ := h.timely
  obtain ⟨row, t, hs, hcreate⟩ := create_written (r := r) hnow h.tellsAddress hc
  rw [handle_create h hverb hpath, serve_create_of_carries h.tables hd, hcreate]
  exact ⟨row, t, country?_of_create hs, rfl, rfl, rfl, rfl⟩

theorem decides_create : Decides (site.createCases r) (site.handle r).1.status := by
  refine decides_of_forall (by simp [createCases]) ?_ ?_
  · simp only [createCases, List.mem_cons, List.not_mem_nil, or_false, exists_eq_or_imp,
      exists_eq_left]
    by_cases hd : ∃ d, Carries r d
    · obtain ⟨d, hd⟩ := hd
      by_cases hclash : ∃ m ∈ d.fields.marks, site.registry.store.Clash none m
      · exact Or.inr (Or.inr (Or.inl ⟨d, hd, hclash⟩))
      · exact Or.inr (Or.inr (Or.inr ⟨d, hd, fun m hm hmclash => hclash ⟨m, hm, hmclash⟩⟩))
    · have hnone : ∀ d, ¬Carries r d := fun d hc => hd ⟨d, hc⟩
      by_cases hq : Quotable r
      · exact Or.inl ⟨hnone, hq⟩
      · exact Or.inr (Or.inl ⟨hnone, hq⟩)
  · simp only [createCases, List.forall_mem_cons]
    refine ⟨fun ⟨hd, hq⟩ => ?_, fun ⟨hd, hq⟩ => ?_, fun ⟨d, hd, hclash⟩ => ?_,
      fun ⟨d, hd, hfree⟩ => ?_, nofun⟩
    · exact (handle_create_refused h hverb hpath hd).2.1 hq
    · exact (handle_create_refused h hverb hpath hd).2.2 hq
    · obtain ⟨c, hc⟩ := exists_conflict rfl hclash
      rw [handle_create_clashing h hverb hpath hd hc]
      rfl
    · obtain ⟨row, t, -, hstatus, -⟩ :=
        handle_create_written h hverb hpath hd ((conflict_none_iff rfl).mpr hfree)
      exact hstatus

/-- **What comes of a request to create a country.** -/
theorem createOutcome : CreateOutcome site r := by
  have hdecided := decides_create h hverb hpath
  have hrows := hdecided.row
  simp only [createCases, List.forall_mem_cons] at hrows
  obtain ⟨-, -, -, hwritten, -⟩ := hrows
  refine ⟨hdecided, fun d before m after hd hsplit hclash hbefore => ?_, fun hstatus => ?_,
    fun hstatus => ?_⟩
  · have hc : site.registry.conflict d none = .ok (some ⟨m.1, m.2⟩) :=
      Registry.conflict_eq_ok_iff.mpr
        ((conflict_eq_some_iff rfl).mpr ⟨before, after, hsplit, hclash, hbefore⟩)
    rw [handle_create_clashing h hverb hpath hd hc]
    rfl
  · have hcase := hdecided.complete
    simp only [createCases, List.mem_cons, List.not_mem_nil, or_false, exists_eq_or_imp,
      exists_eq_left] at hcase
    rcases hcase with ⟨hd, -⟩ | ⟨hd, -⟩ | ⟨d, hd, hclash⟩ | hcase
    · exact (handle_create_refused h hverb hpath hd).1
    · exact (handle_create_refused h hverb hpath hd).1
    · obtain ⟨c, hc⟩ := exists_conflict rfl hclash
      rw [handle_create_clashing h hverb hpath hd hc]
      rfl
    · exact absurd (hwritten.mpr hcase) hstatus
  · obtain ⟨d, hd, hfree⟩ := hwritten.mp hstatus
    obtain ⟨row, t, hrow, -, hcontent, hlocation, hlater⟩ :=
      handle_create_written h hverb hpath hd ((conflict_none_iff rfl).mpr hfree)
    refine ⟨row.id, hlocation, fun hfits g hg => ?_⟩
    rw [hlater, hcontent]
    exact told_after_write h hfits hrow hg

end Create

/-! ### New values for a country -/

section Update

variable (h : site.InService) (hverb : r.verb = "PUT") (hne : segment ≠ [])
  (hslash : '/' ∉ segment) (hpath : r.path = site.base ++ '/' :: segment)
include h hverb hne hslash hpath

theorem handle_update_refused (hd : ∀ id d, ¬Replaces segment r id d) :
    (site.handle r).2.registry.store = site.registry.store ∧
      (Quotable r → (site.handle r).1.status = 400) ∧
      (¬Quotable r → (site.handle r).1.status = 500) := by
  have hrefused := update_refused site hd
  rw [handle_update h hverb hne hslash hpath, hrefused.1]
  exact ⟨rfl, hrefused.2⟩

theorem handle_update_of_replaces (hd : Replaces segment r id d) :
    site.handle r = (Origins.mark site.origins r (site.update id d).1,
      { site with registry := (site.update id d).2.sweep }) := by
  rw [handle_update h hverb hne hslash hpath, serve_update_of_replaces h.tables hd]

theorem handle_update_absent (hfits : fits id) (hd : Replaces segment r id d)
    (hnone : site.registry.store.country? id = none) :
    site.handle r = (Origins.mark site.origins r (noCountry id), site.sweep) := by
  have hout : site.registry.contains id = .ok false := by
    rw [contains_eq hfits, hnone]
    rfl
  rw [handle_update_of_replaces h hverb hne hslash hpath hd, update_absent hout]
  rfl

theorem handle_update_clashing (hfits : fits id) (hd : Replaces segment r id d)
    (hsome : (site.registry.store.country? id).isSome) {c : Conflict}
    (hc : site.registry.conflict d (some id) = .ok (some c)) :
    site.handle r = (Origins.mark site.origins r (conflictAnswer c), site.sweep) := by
  have hin : site.registry.contains id = .ok true := by rw [contains_eq hfits, hsome]
  rw [handle_update_of_replaces h hverb hne hslash hpath hd, update_clashing hin hc]
  rfl

theorem handle_update_written (hfits : fits id) (hd : Replaces segment r id d)
    (hsome : (site.registry.store.country? id).isSome)
    (hc : site.registry.conflict d (some id) = .ok none) :
    ∃ row t, t.country? id = some row ∧
      (site.handle r).1.status = 200 ∧ (site.handle r).1.content = .json (t.detail row).json ∧
      (site.handle r).2 = site.afterWrite t := by
  obtain ⟨now, hnow⟩ := h.timely
  have hin : site.registry.contains id = .ok true := by rw [contains_eq hfits, hsome]
  obtain ⟨row, t, hs, hupdate⟩ := update_written hnow hin hc
  rw [handle_update_of_replaces h hverb hne hslash hpath hd, hupdate]
  exact ⟨row, t, country?_of_replace hs, rfl, rfl, rfl⟩

variable (hfits : ∀ id, idParameter segment = .ok id → fits id)
include hfits

theorem decides_update : Decides (site.updateCases segment r) (site.handle r).1.status := by
  have hx : ∀ {id : Int} {d : Draft}, Replaces segment r id d → (some id).all fits :=
    fun hd => hfits _ hd.1
  refine decides_of_forall (by simp [updateCases]) ?_ ?_
  · simp only [updateCases, List.mem_cons, List.not_mem_nil, or_false, exists_eq_or_imp,
      exists_eq_left]
    by_cases hd : ∃ id d, Replaces segment r id d
    · obtain ⟨id, d, hd⟩ := hd
      cases hrow : site.registry.store.country? id with
      | none => exact Or.inr (Or.inr (Or.inl ⟨id, d, hd, hrow⟩))
      | some row =>
        have hsome : (site.registry.store.country? id).isSome := by
          rw [hrow]
          rfl
        by_cases hclash : ∃ m ∈ d.fields.marks, site.registry.store.Clash (some id) m
        · exact Or.inr (Or.inr (Or.inr (Or.inl ⟨id, d, hd, hsome, hclash⟩)))
        · exact Or.inr (Or.inr (Or.inr (Or.inr
            ⟨id, d, hd, hsome, fun m hm hmclash => hclash ⟨m, hm, hmclash⟩⟩)))
    · have hnone : ∀ id d, ¬Replaces segment r id d := fun id d hc => hd ⟨id, d, hc⟩
      by_cases hq : Quotable r
      · exact Or.inl ⟨hnone, hq⟩
      · exact Or.inr (Or.inl ⟨hnone, hq⟩)
  · simp only [updateCases, List.forall_mem_cons]
    refine ⟨fun ⟨hd, hq⟩ => ?_, fun ⟨hd, hq⟩ => ?_, fun ⟨id, d, hd, hnone⟩ => ?_,
      fun ⟨id, d, hd, hsome, hclash⟩ => ?_, fun ⟨id, d, hd, hsome, hfree⟩ => ?_, nofun⟩
    · exact (handle_update_refused h hverb hne hslash hpath hd).2.1 hq
    · exact (handle_update_refused h hverb hne hslash hpath hd).2.2 hq
    · rw [handle_update_absent h hverb hne hslash hpath (hfits id hd.1) hd hnone]
      rfl
    · obtain ⟨c, hc⟩ := exists_conflict (hx hd) hclash
      rw [handle_update_clashing h hverb hne hslash hpath (hfits id hd.1) hd hsome hc]
      rfl
    · obtain ⟨row, t, -, hstatus, -⟩ := handle_update_written h hverb hne hslash hpath
        (hfits id hd.1) hd hsome ((conflict_none_iff (hx hd)).mpr hfree)
      exact hstatus

/-- **What comes of a request to replace a country.** -/
theorem updateOutcome : UpdateOutcome site segment r := by
  have hx : ∀ {id : Int} {d : Draft}, Replaces segment r id d → (some id).all fits :=
    fun hd => hfits _ hd.1
  have hdecided := decides_update h hverb hne hslash hpath hfits
  have hrows := hdecided.row
  simp only [updateCases, List.forall_mem_cons] at hrows
  obtain ⟨-, -, -, -, hwritten, -⟩ := hrows
  refine ⟨hdecided, fun id d before m after hd hsome hsplit hclash hbefore => ?_,
    fun hstatus => ?_, fun hstatus => ?_⟩
  · have hc : site.registry.conflict d (some id) = .ok (some ⟨m.1, m.2⟩) :=
      Registry.conflict_eq_ok_iff.mpr
        ((conflict_eq_some_iff (hx hd)).mpr ⟨before, after, hsplit, hclash, hbefore⟩)
    rw [handle_update_clashing h hverb hne hslash hpath (hfits id hd.1) hd hsome hc]
    rfl
  · have hcase := hdecided.complete
    simp only [updateCases, List.mem_cons, List.not_mem_nil, or_false, exists_eq_or_imp,
      exists_eq_left] at hcase
    rcases hcase with
      ⟨hd, -⟩ | ⟨hd, -⟩ | ⟨id, d, hd, hnone⟩ | ⟨id, d, hd, hsome, hclash⟩ | hcase
    · exact (handle_update_refused h hverb hne hslash hpath hd).1
    · exact (handle_update_refused h hverb hne hslash hpath hd).1
    · rw [handle_update_absent h hverb hne hslash hpath (hfits id hd.1) hd hnone]
      rfl
    · obtain ⟨c, hc⟩ := exists_conflict (hx hd) hclash
      rw [handle_update_clashing h hverb hne hslash hpath (hfits id hd.1) hd hsome hc]
      rfl
    · exact absurd (hwritten.mpr hcase) hstatus
  · obtain ⟨id, d, hd, hsome, hfree⟩ := hwritten.mp hstatus
    obtain ⟨row, t, hrow, -, hcontent, hlater⟩ := handle_update_written h hverb hne hslash hpath
      (hfits id hd.1) hd hsome ((conflict_none_iff (hx hd)).mpr hfree)
    refine ⟨id, hd.1, fun g hg => ?_⟩
    rw [hlater, hcontent]
    exact told_after_write h (hfits id hd.1) hrow hg

end Update

/-- A site with the settings of a service that is given none. -/
def initial : Site where
  base := "/countries/v1".toList
  routes := plainRoutes "/countries/v1".toList
  origins := Settings.default.origins.map Address.text
  hasTables := true
  registry := .empty Settings.default (Registry.cacheOf Settings.default)

theorem opened_default : opened Settings.default = .ok initial := by
  have hbase : "/countries".toList ++ Settings.default.apiPath.map Char.ofNat =
      "/countries/v1".toList := by decide +kernel
  have hwhole : ¬Settings.default.apiPath.any Json.isHalf := by decide +kernel
  have hbraces : '\x7b' ∉ "/countries/v1".toList := by decide +kernel
  have hdescription : '\x7b' ∉ "/countries/v1".toList ++ "/openapi.json".toList := by decide +kernel
  have hslash : "/countries/v1".toList.getLast? ≠ some '/' := by decide +kernel
  unfold opened
  rw [hbase]
  dsimp only
  rw [Template.read_of_plain hdescription]
  dsimp only
  rw [if_neg hslash, mapM_route hbraces, ok_bind, if_neg hwhole]
  rfl

theorem inService_initial : initial.InService where
  reached := .opened Settings.default opened_default
  plain := ⟨by decide +kernel, List.all_eq_true.mp (by decide +kernel)⟩
  tables := rfl
  timely := ⟨0, rfl⟩
  ends := fun q => ⟨_, rfl⟩

/-- A request with a JSON text. -/
def request (method address text : String) : Request where
  method := method
  address := address
  headers := [("content-type", "application/json")]
  payload := .raw text

/-- A country is created, and then its name is corrected. -/
def misspelt : Request :=
  request "POST" "/countries/v1" ("\x7b\"name\":\"Frence\",\"continent\":\"Europe\","
    ++ "\"countryCode\":\"33\",\"iso2\":\"fr\",\"iso3\":\"fra\"\x7d")

def corrected : Request :=
  request "PUT" "/countries/v1/1" ("\x7b\"name\":\"France\",\"continent\":\"Europe\","
    ++ "\"countryCode\":\"33\",\"iso2\":\"fr\",\"iso3\":\"fra\"\x7d")

theorem carries_misspelt : Carries misspelt ⟨"Frence", "Europe", ["33"], "fr", "fra"⟩ :=
  carries_iff.mpr (by decide +kernel)

/-- The tables in between. -/
theorem store_misspelt : (initial.handle misspelt).2.registry.store =
    ⟨[⟨1, "Frence", "Europe", "FR", "FRA", 0, 0⟩], [⟨1, 1, "33", true, 0, 0⟩]⟩ := by
  decide +kernel

/-- A draft whose name is half a surrogate pair. -/
def torn : Request :=
  request "POST" "/countries/v1" ("\x7b\"name\":\"\\ud800\",\"continent\":\"Europe\","
    ++ "\"countryCode\":\"33\",\"iso2\":\"FR\",\"iso3\":\"FRA\"\x7d")

end Site

end Gazetteer.Http
