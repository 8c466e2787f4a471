import Gazetteer.Proofs.Http.Outcome
import Gazetteer.Proofs.Number.Nearest
import Gazetteer.Proofs.Store.Dialling

/-!
# No dialling code is shared on a site

A client can write a draft only if nothing in it clashes, and what is looked up for this are the
very values that are stored.  So the tables of a site never share a dialling code, and neither did
the tables from which a page was read that is still kept.

* `Registry.Apart`: registries in which no dialling code is shared; `apart_of_effect`: what requests
  do to them;
* `Registry.Apart.search_told`: what they tell of a search;
* `Country.Page.exists_json?`: a page of a result that is not enormous can be written down;
* `KeepsApart`: what comes of it for a client; `keepsApart_of_reachable`: for every site that
  requests lead to.
-/

namespace Gazetteer

open Country Number Store Validation

/-- **A page can be written down**, unless the number of countries has more than 1000 bits; it tells
this number. -/
theorem Country.Page.exists_json? {p : Page} (h : p.totalCount.log2 < 1023) :
    ∃ v, p.json? = some v ∧ v.field? "totalCount" = some (.int p.totalCount) := by
  obtain ⟨m, e, hquotient⟩ := Binary64.ofQuotient_of_log2_lt h false p.pageSize
  obtain ⟨totalPages, htotal⟩ : ∃ totalPages, p.totalPages? = some totalPages := by
    unfold totalPages?
    rw [hquotient]
    exact ⟨_, rfl⟩
  unfold json? jsonBy?
  rw [htotal]
  exact ⟨_, rfl, rfl⟩

namespace Registry

open Http.Site

variable {r r' : Registry} {d : Draft} {excluded : Option Int}

/-! ## Registries in which no dialling code is shared -/

/-- **No dialling code is shared** in the tables, nor was one in those from which the readings come
that are kept. -/
structure Apart (r : Registry) : Prop where
  tables : r.store.Exclusive
  kept : ∀ e ∈ r.cache.entries, ∃ (q : Query) (reading : Reading), q.Normal ∧ e.key = q.key ∧
    e.value = some reading ∧ ∃ s : Store, s.Exclusive ∧ q.load s = .ok (some reading)

/-- A draft in which nothing clashes has no dialling code of another country. -/
theorem code_not_mem_of_conflict (hx : excluded.all fits) (h : r.conflict d excluded = .ok none) :
    ∀ k ∈ r.store.codes, some k.countryId ≠ excluded → k.code ∉ d.fields.codes :=
  (forall_not_clash_iff.mp ((conflict_eq_none_iff hx).mp (conflict_eq_ok_iff.mp h))).2

/-- **The effects of requests are writes with free values.** -/
theorem writes_of_effect (h : Effect r r') : Writes r.store r'.store := by
  rcases h.store_cases with
    heq | ⟨d, now, row, -, hfree, hs⟩ | ⟨id, d, now, row, -, hin, hfree, hs⟩ | ⟨id, hs⟩
  · rw [heq]
    exact .nothing
  · exact .created (fun k hk => code_not_mem_of_conflict rfl hfree k hk nofun) hs
  · refine .replaced (fun k hk hne => ?_) hs
    exact code_not_mem_of_conflict (fits_of_contains hin) hfree k hk (by simpa using hne)
  · exact .removed hs

/-- **Requests keep dialling codes apart.** -/
theorem apart_of_effect (h : r.Apart) (he : Effect r r') : r'.Apart := by
  refine ⟨h.tables.of_writes (writes_of_effect he), ?_⟩
  cases he.change with
  | nothing => exact h.kept
  | reading q hq =>
    intro e hmem
    rcases mem_read hmem with hmem | ⟨reading, hload, hkey, hvalue, -⟩
    · exact h.kept e hmem
    · exact ⟨q, reading, hq, hkey, hvalue, r.store, h.tables, hload⟩
  | forgetting family => exact fun e hmem => h.kept e (Cache.mem_invalidate.mp hmem).1
  | writing store => exact fun e hmem => h.kept e (Cache.mem_invalidate.mp hmem).1

theorem apart_of_reachable {Passes : Quantity → Quantity → Prop} {site : Http.Site}
    (h : site.Reachable Passes) : site.registry.Apart := by
  refine h.registry_induction (fun s => ⟨exclusive_empty, nofun⟩)
    (fun r r' ha he => apart_of_effect ha he) (fun r ha => ⟨ha.tables, fun e he => ?_⟩)
    fun r clock ha _ => ⟨ha.tables, ha.kept⟩
  exact ha.kept e (Cache.mem_sweep.mp he).1

/-! ## What is told of a search -/

/-- **A page that is told is that of tables in which no dialling code is shared.** -/
theorem Apart.search_told (h : r.Apart) {request : Search.Request} (hq : request.Normal)
    {page : Option Page} (hp : (r.search request).1 = .ok page) :
    ∃ s : Store, s.Exclusive ∧ page = some (s.page request) := by
  have hr := readsTo r (.search request)
  unfold Registry.search at hp
  generalize r.read (.search request) = x at hp hr
  cases hr with
  | hit reading hg =>
    obtain ⟨s, hs, hload⟩ := of_hit
      (P := fun q reading => ∃ s : Store, s.Exclusive ∧ q.load s = .ok (some reading))
      (q := .search request) (fun e he _ _ => h.kept e he) hq hg
    cases hload
    cases hp
    exact ⟨s, hs, rfl⟩
  | refused fault hg hl => cases hl
  | absent hg hl => cases hl
  | kept reading c hg hl hc =>
    cases hl
    cases hp
    exact ⟨r.store, h.tables, rfl⟩
  | uncached reading fault hg hl hc => cases hp

/-- **A search is told**, if lifetimes have ends. -/
theorem search_eq_ok (r : Registry) (request : Search.Request)
    (hends : r.lifetimes.HaveEnds r.clock) : ∃ page, (r.search request).1 = .ok page := by
  have hr := readsTo r (.search request)
  unfold Registry.search
  generalize r.read (.search request) = x at hr
  cases hr with
  | hit | absent | kept => exact ⟨_, rfl⟩
  | refused fault hg hl => cases hl
  | uncached reading fault hg hl hc =>
    obtain ⟨c, hc'⟩ := r.exists_kept hends (.search request) reading
    rw [hc] at hc'
    cases hc'

end Registry

namespace Http.Site

variable {site : Site} {r : Request} {segment : List Char} {d : Draft} {id : Int} {code : String}

/-! ## What clients see -/

/-- **A request that an endpoint answers.** -/
structure Meets (site : Site) (r : Request) (endpoint : Endpoint) (segment : List Char) : Prop where
  verb : r.verb ≠ "OPTIONS"
  head : r.verb ≠ "HEAD"
  route : dispatch site.routes r.verb r.path = .to endpoint segment

theorem Meets.handle_eq {endpoint : Endpoint} (h : site.Meets r endpoint segment) :
    site.handle r = (Origins.mark site.origins r (site.serve r segment endpoint).1,
      { site with registry := (site.serve r segment endpoint).2.sweep }) :=
  Site.handle_eq h.verb h.head h.route

/-- The tables after a request. -/
def storeAfter (site : Site) (r : Request) : Store := (site.handle r).2.registry.store

/-! ### Searching -/

/-- The answer for a page on which there is one country at most. -/
theorem pageAnswer_of_le {p : Page} (h : p.totalCount ≤ 1) : ∃ v n, pageAnswer (some p) = .ok v ∧
    v.field? "totalCount" = some (.int n) ∧ (n = 0 ∨ n = 1) := by
  have hlog : p.totalCount.log2 < 1023 := by
    obtain h | h : p.totalCount = 0 ∨ p.totalCount = 1 := by omega
    · rw [h]
      decide
    · rw [h]
      decide
  obtain ⟨v, hv, hfield⟩ := Page.exists_json? hlog
  refine ⟨v, _, ?_, hfield, by omega⟩
  unfold pageAnswer
  rw [Option.bind_some, hv]

/-- **A search for a dialling code tells of one country at most**, and it tells it if lifetimes have
ends. -/
theorem found_of_apart (ha : site.registry.Apart) (ht : site.hasTables)
    (hm : site.Meets r .search segment) {request : Search.Request}
    (hr : searchRequest r.pairs = .ok request) (hcode : request.countryCode.isSome) :
    (site.registry.lifetimes.HaveEnds site.registry.clock → (site.handle r).1.status = 200) ∧
      ((site.handle r).1.status = 200 → ∃ v n, (site.handle r).1.content = .json v ∧
        v.field? "totalCount" = some (.int n) ∧ (n = 0 ∨ n = 1)) := by
  have hserve : site.serve r segment .search =
      answer pageAnswer (site.registry.search request) := by
    unfold serve
    rw [hr, proceed_ok ht]
  rw [hm.handle_eq, hserve]
  unfold answer
  cases hp : (site.registry.search request).1 with
  | error fault =>
    refine ⟨fun hends => ?_, nofun⟩
    obtain ⟨page, hpage⟩ := site.registry.search_eq_ok request hends
    rw [hp] at hpage
    cases hpage
  | ok page =>
    obtain ⟨s, hs, rfl⟩ := ha.search_told (normal_of_searchRequest hr) hp
    have htotal : (s.page request).totalCount ≤ 1 := hs.length_found_le hcode
    obtain ⟨v, n, hv, hfield, hn⟩ := pageAnswer_of_le htotal
    dsimp only [Origins.mark]
    rw [hv]
    exact ⟨fun _ => rfl, fun _ => ⟨v, n, rfl, hfield, hn⟩⟩

/-! ### Giving up dialling codes -/

/-- **A country is deleted if it is there**, and then it has no dialling code. -/
theorem codesOf_of_deleted (ht : site.hasTables) (hm : site.Meets r .delete segment)
    (hid : idParameter segment = .ok id) :
    (fits id → (site.registry.store.country? id).isSome → (site.handle r).1.status = 204) ∧
      ((site.handle r).1.status = 204 → (site.storeAfter r).codesOf id = []) := by
  unfold storeAfter
  rw [hm.handle_eq, serve_delete ht hid]
  rcases site.registry.delete_cases id with ⟨t, hs, hr⟩ | ⟨x, hr, hx⟩
  · rw [hr]
    exact ⟨fun _ _ => rfl, fun _ => codesOf_of_remove hs⟩
  · rw [hr]
    refine ⟨fun hfits hin => ?_, fun hstatus => ?_⟩
    · obtain ⟨t, hs⟩ := exists_remove hfits hin
      rw [Registry.delete_eq, hs] at hr
      exact absurd (congrArg Prod.fst hr).symm hx
    · rcases x with fault | (_ | _)
      · cases hstatus
      · cases hstatus
      · exact absurd rfl hx

/-- A country is replaced if the answer says so. -/
theorem update_eq_of_status (site : Site) (id : Int) (d : Draft) :
    (site.update id d).1.status = 200 →
      (site.update id d).2 = (site.registry.update id d).2 ∧
        ∃ detail, (site.registry.update id d).1 = .ok (some detail) := by
  unfold update
  rcases site.registry.contains id with _ | (_ | _)
  · nofun
  · nofun
  · dsimp only
    rcases site.registry.conflict d (some id) with _ | (_ | _)
    · nofun
    · unfold answer
      rcases (site.registry.update id d).1 with _ | (_ | detail)
      · nofun
      · nofun
      · exact fun _ => ⟨rfl, detail, rfl⟩
    · nofun

/-- A country that was replaced has the dialling codes of its new values. -/
theorem codesOf_of_replaced (ht : site.hasTables) (hm : site.Meets r .update segment)
    (hd : Replaces segment r id d) (hstatus : (site.handle r).1.status = 200) :
    ((site.storeAfter r).codesOf id).map (·.code) = d.fields.codes := by
  unfold storeAfter
  rw [hm.handle_eq, serve_update_of_replaces ht hd] at hstatus ⊢
  obtain ⟨hlater, detail, hdetail⟩ := update_eq_of_status site id d hstatus
  rw [hlater]
  rcases site.registry.update_cases id d with ⟨now, row, t, -, hs, hr⟩ | ⟨x, hr, hx⟩
  · rw [hr]
    exact codesOf_of_replace hs
  · rw [hr] at hdetail
    exact absurd hdetail (hx detail)

/-- **A dialling code that was given up is spare**, whatever the request was. -/
theorem spare_of_dropped (ha : site.registry.Apart)
    (hd : Dropped site.registry.store (site.storeAfter r) code) :
    (site.storeAfter r).Spare code := by
  obtain ⟨registry, heffect, hr⟩ := handle_frame site r
  have hstore : site.storeAfter r = registry.store := by
    unfold storeAfter
    rw [hr]
    rfl
  rw [hstore] at hd ⊢
  exact ha.tables.spare_of_dropped (Registry.writes_of_effect heffect) hd

/-! ### Taking spare dialling codes -/

/-- Nothing clashes if no key does and every dialling code is spare or one's own. -/
theorem not_clash_of_spare (excluded : Option Int) {s : Store} {f : Fields} (h : s.Exclusive)
    (hkeys : ∀ m ∈ f.keys, ¬s.Clash excluded m) (hcodes : ∀ code ∈ f.codes, s.Spare code ∨
      ∃ k ∈ s.codes, some k.countryId = excluded ∧ k.code = code) :
    ∀ m ∈ f.marks, ¬s.Clash excluded m := by
  intro m hm
  rcases List.mem_append.mp hm with hm | hm
  · exact hkeys m hm
  · obtain ⟨code, hcode, rfl⟩ := List.mem_map.mp hm
    rintro ⟨k, hk, hne, hkcode⟩
    rcases hcodes code hcode with hspare | ⟨j, hj, hown, hjcode⟩
    · exact hspare k hk hkcode
    · have hsame := h.unshared k hk j hj (hkcode.trans hjcode.symm)
      exact hne (hsame ▸ hown)

/-- **A new country takes spare dialling codes.** -/
theorem created_of_spare (ha : site.registry.Apart) (ht : site.hasTables)
    (htells : site.tellsAddress) (hnow : ∃ now, site.registry.now = .ok now)
    (hm : site.Meets r .create segment) (hd : Carries r d)
    (hkeys : ∀ m ∈ d.fields.keys, ¬site.registry.store.Clash none m)
    (hcodes : ∀ code ∈ d.fields.codes, site.registry.store.Spare code) :
    (site.handle r).1.status = 201 ∧
      ∃ id, (site.handle r).1.location = some (site.countryAddress r id) ∧
        ((site.storeAfter r).codesOf id).map (·.code) = d.fields.codes := by
  obtain ⟨now, hnow⟩ := hnow
  have hfree := not_clash_of_spare none ha.tables hkeys fun code hcode => Or.inl (hcodes code hcode)
  obtain ⟨row, t, hs, hcreate⟩ :=
    create_written (r := r) hnow htells ((conflict_none_iff rfl).mpr hfree)
  unfold storeAfter
  rw [hm.handle_eq, serve_create_of_carries ht hd, hcreate]
  exact ⟨rfl, row.id, rfl, ha.tables.codesOf_of_create hs⟩

/-- **So does a country that is replaced**; it may keep its own. -/
theorem updated_of_spare (ha : site.registry.Apart) (ht : site.hasTables)
    (hnow : ∃ now, site.registry.now = .ok now) (hm : site.Meets r .update segment)
    (hd : Replaces segment r id d) (hin : site.registry.contains id = .ok true)
    (hkeys : ∀ m ∈ d.fields.keys, ¬site.registry.store.Clash (some id) m)
    (hcodes : ∀ code ∈ d.fields.codes, site.registry.store.Spare code ∨
      code ∈ (site.registry.store.codesOf id).map (·.code)) :
    (site.handle r).1.status = 200 ∧
      ((site.storeAfter r).codesOf id).map (·.code) = d.fields.codes := by
  obtain ⟨now, hnow⟩ := hnow
  have hfree := not_clash_of_spare (some id) ha.tables hkeys fun code hcode => by
    refine (hcodes code hcode).imp_right fun hown => ?_
    obtain ⟨k, hk, hkcode⟩ := List.mem_map.mp hown
    exact ⟨k, (mem_codesOf.mp hk).1, congrArg some (mem_codesOf.mp hk).2, hkcode⟩
  obtain ⟨row, t, hs, hupdate⟩ := update_written hnow hin
    ((conflict_none_iff (Registry.fits_of_contains hin)).mpr hfree)
  unfold storeAfter
  rw [hm.handle_eq, serve_update_of_replaces ht hd, hupdate]
  exact ⟨rfl, codesOf_of_replace hs⟩

/-! ### All of it -/

/-- **Dialling codes are kept apart.** -/
structure KeepsApart (site : Site) : Prop where
  /-- No two countries share a dialling code. -/
  apart : ∀ j ∈ site.registry.store.codes, ∀ k ∈ site.registry.store.codes,
    j.code = k.code → j.countryId = k.countryId
  /-- The tables themselves do not demand it: they refuse a country for its keys only. -/
  lenient : ∀ now f, (∀ m ∈ Fields.keys f, ¬site.registry.store.Clash none m) →
    ∃ x, site.registry.store.create now (columns f) = .ok x
  /-- A search for a dialling code finds one country or none. -/
  found : site.hasTables → ∀ r segment request, site.Meets r .search segment →
    searchRequest r.pairs = .ok request → request.countryCode.isSome →
      (site.registry.lifetimes.HaveEnds site.registry.clock → (site.handle r).1.status = 200) ∧
      ((site.handle r).1.status = 200 → ∃ v n, (site.handle r).1.content = .json v ∧
        v.field? "totalCount" = some (.int n) ∧ (n = 0 ∨ n = 1))
  /-- A country that is deleted gives up its dialling codes. -/
  deleted : site.hasTables → ∀ r segment id, site.Meets r .delete segment →
    idParameter segment = .ok id →
      (fits id → (site.registry.store.country? id).isSome → (site.handle r).1.status = 204) ∧
      ((site.handle r).1.status = 204 → (site.storeAfter r).codesOf id = [])
  /-- A country that is replaced gives up those that are not among its new ones. -/
  replaced : site.hasTables → ∀ r segment id d, site.Meets r .update segment →
    Replaces segment r id d → (site.handle r).1.status = 200 →
      ((site.storeAfter r).codesOf id).map (·.code) = d.fields.codes
  /-- What a country has given up no country has. -/
  spare : ∀ r code, Dropped site.registry.store (site.storeAfter r) code →
    (site.storeAfter r).Spare code
  /-- What no country has a new one may have. -/
  created : site.hasTables → site.tellsAddress → (∃ now, site.registry.now = .ok now) →
    ∀ r segment d, site.Meets r .create segment → Carries r d →
      (∀ m ∈ d.fields.keys, ¬site.registry.store.Clash none m) →
      (∀ code ∈ d.fields.codes, site.registry.store.Spare code) →
        (site.handle r).1.status = 201 ∧
          ∃ id, (site.handle r).1.location = some (site.countryAddress r id) ∧
            ((site.storeAfter r).codesOf id).map (·.code) = d.fields.codes
  /-- And so may a country that is replaced. -/
  updated : site.hasTables → (∃ now, site.registry.now = .ok now) →
    ∀ r segment id d, site.Meets r .update segment → Replaces segment r id d →
      site.registry.contains id = .ok true →
      (∀ m ∈ d.fields.keys, ¬site.registry.store.Clash (some id) m) →
      (∀ code ∈ d.fields.codes, site.registry.store.Spare code ∨
        code ∈ (site.registry.store.codesOf id).map (·.code)) →
        (site.handle r).1.status = 200 ∧
          ((site.storeAfter r).codesOf id).map (·.code) = d.fields.codes

/-- **Every site that requests lead to keeps dialling codes apart**, whatever its settings are and
however time passes between the requests. -/
theorem keepsApart_of_reachable {Passes : Quantity → Quantity → Prop}
    (h : site.Reachable Passes) : site.KeepsApart := by
  have ha := Registry.apart_of_reachable h
  refine ⟨ha.tables.unshared, fun now f hkeys => ?_,
    fun ht _ _ _ hm hr hcode => found_of_apart ha ht hm hr hcode,
    fun ht _ _ _ hm hid => codesOf_of_deleted ht hm hid,
    fun ht _ _ _ _ hm hd hstatus => codesOf_of_replaced ht hm hd hstatus,
    fun _ _ hd => spare_of_dropped ha hd,
    fun ht htells hnow _ _ _ hm hd hkeys hcodes =>
      created_of_spare ha ht htells hnow hm hd hkeys hcodes,
    fun ht hnow _ _ _ _ hm hd hin hkeys hcodes =>
      updated_of_spare ha ht hnow hm hd hin hkeys hcodes⟩
  rcases site.registry.store.create_columns now f with ⟨x, hx, -⟩ | ⟨_, -, m, hm, hclash⟩
  · exact ⟨x, hx⟩
  · exact absurd hclash (hkeys m hm)

/-- The country that was created is deleted. -/
def deletion : Request := request "DELETE" "/countries/v1/1" ""

/-- A country is created, deleted and created again with the dialling code that it has given up. -/
theorem keepsApart_deletion : (initial.handle misspelt).2.Reachable Quantity.Le ∧
    ((initial.handle misspelt).2.storeAfter deletion).Spare "33" ∧
    (((initial.handle misspelt).2.handle deletion).2.handle misspelt).1.status = 201 := by
  have hservice := inService_initial.handle misspelt
  have hlater := hservice.handle deletion
  have hgone : (initial.handle misspelt).2.storeAfter deletion = ⟨[], []⟩ := by decide +kernel
  have hdropped : Dropped (initial.handle misspelt).2.registry.store
      ((initial.handle misspelt).2.storeAfter deletion) "33" := by
    rw [hgone, store_misspelt]
    exact ⟨_, List.mem_singleton_self _, rfl, nofun⟩
  have hspare := (keepsApart_of_reachable hservice.reached).spare deletion "33" hdropped
  have hstore : ((initial.handle misspelt).2.handle deletion).2.registry.store = ⟨[], []⟩ := hgone
  have hroute : dispatch ((initial.handle misspelt).2.handle deletion).2.routes misspelt.verb
      misspelt.path = .to .create [] := by
    rw [hlater.routes]
    decide +kernel
  refine ⟨hservice.reached, hspare, ?_⟩
  refine ((keepsApart_of_reachable hlater.reached).created hlater.tables hlater.tellsAddress
    hlater.timely misspelt [] _ ⟨by decide +kernel, by decide +kernel, hroute⟩ carries_misspelt
    ?_ ?_).1
  · rw [hstore]
    rintro ⟨mark, value⟩ -
    cases mark <;> rintro ⟨_, hmem, -⟩ <;> cases hmem
  · have hcodes : (Draft.fields ⟨"Frence", "Europe", ["33"], "fr", "fra"⟩).codes = ["33"] := by
      decide +kernel
    intro code hcode
    rw [hcodes] at hcode
    obtain rfl := List.mem_singleton.mp hcode
    exact hspare

end Http.Site

end Gazetteer
