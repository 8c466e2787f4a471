import Gazetteer.Proofs.Http.Exchange
import Gazetteer.Proofs.Registry.Conflicts
import Gazetteer.Proofs.Store.Upkeep
import Gazetteer.Proofs.Validation.Quoting

/-!
# How a draft that is sent is answered

What a client sends is either no draft, or a draft that clashes with another country, or one that is
written; and which of these it is decides the answer.  A draft that is written is told as it was
stored.

What is no draft is answered with everything that is wrong with it, and the offending parts are
quoted, without the fields that are kept back.  A number that is not finite and a torn text cannot
be quoted; then the answer is that something went wrong.

* `Carries`, `Quotable`: what a request may carry;
* `create_refused`, `create_clashing`, `create_written`: the three ways of a new country;
* `update_refused`, `update_absent`, `update_clashing`, `update_written`: the four of new values;
* `country_of_stored`: what is told of a country that is stored.
-/

namespace Gazetteer.Http

open Country Number Store Validation

/-! ## What a request carries -/

/-- **A request carries an accepted draft.** -/
def Carries (r : Request) (d : Draft) : Prop :=
  ∃ body, Body.read r = .ok body ∧ Site.draft body = .ok d

/-- The draft that a request carries, if it is accepted. -/
def carried? (r : Request) : Option Draft :=
  match Body.read r with
  | .error _ => none
  | .ok body => (Site.draft body).toOption

theorem carries_iff {r : Request} {d : Draft} : Carries r d ↔ carried? r = some d := by
  unfold Carries carried?
  cases Body.read r with
  | error response => simp
  | ok body => cases hd : Site.draft body <;> simp [hd, Checked.toOption]

/-- **All that is wrong with what a request carries can be quoted.** -/
def Quotable (r : Request) : Prop := ∀ body, Body.read r = .ok body → (Site.draft body).Quotable

/-- **What is wrong with a value can be quoted if what is told of the value is whole.** -/
theorem quotable_of_isTellable {r : Request}
    (h : ∀ v, Body.read r = .ok (.value v) → v.IsTellable) : Quotable r := by
  intro body hbody
  unfold Site.draft Body.check
  cases body with
  | nothing => exact Checked.quotable_under_iff.mpr (Checked.quotable_refuse rfl)
  | value v => exact Checked.quotable_under_iff.mpr (Draft.quotable_read _ (h v hbody))

/-- An answer to issues that can be quoted is a refusal, and any other that something went wrong. -/
theorem status_ofIssues {α : Type} {x : Checked α} {issues : List Issue} (h : x = .faulty issues) :
    (x.Quotable → (Response.ofIssues issues).status = 400) ∧
      (¬x.Quotable → (Response.ofIssues issues).status = 500) := by
  subst h
  have hall : (issues.map Issue.encoded).all (·.input.isWhole) = true ↔
      (Checked.faulty issues : Checked α).Quotable := by
    rw [List.all_eq_true, List.forall_mem_map]
    rfl
  unfold Response.ofIssues
  dsimp only
  constructor
  · intro h
    rw [if_pos (hall.mpr h)]
    rfl
  · intro h
    rw [if_neg (mt hall.mp h)]
    rfl

theorem status_ofFault (fault : Json.Fault) : (Body.ofFault fault).status = 400 := by
  unfold Body.ofFault
  split <;> rfl

/-- What cannot be read is refused. -/
theorem status_of_unread {r : Request} {response : Response} (h : Body.read r = .error response) :
    response.status = 400 := by
  unfold Body.read at h
  split at h
  · cases h
  · split at h
    · unfold Body.ofOctets at h
      split at h
      · cases h
        rfl
      · split at h
        · cases h
        · cases h
          exact status_ofFault _
    · cases h

namespace Site

variable {site : Site} {r : Request} {segment : List Char} {d : Draft} {id : Int}

/-! ## Countries and clashes -/

theorem contains_eq (h : fits id) :
    site.registry.contains id = .ok (site.registry.store.country? id).isSome := by
  refine Registry.contains_eq_ok_iff.mpr ?_
  rw [Store.contains, checkId_of_fits h, ok_bind]

theorem conflict_none_iff {excluded : Option Int} (hx : excluded.all fits) :
    site.registry.conflict d excluded = .ok none ↔
      ∀ m ∈ d.fields.marks, ¬site.registry.store.Clash excluded m :=
  Registry.conflict_eq_ok_iff.trans (conflict_eq_none_iff hx)

theorem exists_conflict {excluded : Option Int} (hx : excluded.all fits)
    (h : ∃ m ∈ d.fields.marks, site.registry.store.Clash excluded m) :
    ∃ c, site.registry.conflict d excluded = .ok (some c) := by
  have hsome : ∃ o, Gazetteer.conflict site.registry.store d.fields excluded = .ok o :=
    ⟨_, conflict_eq hx⟩
  obtain ⟨_ | c, hc⟩ := hsome
  · obtain ⟨m, hm, hclash⟩ := h
    exact absurd hclash ((conflict_eq_none_iff hx).mp hc m hm)
  · exact ⟨c, Registry.conflict_eq_ok_iff.mpr hc⟩

/-! ## What is refused -/

theorem proceed_ok (ht : site.hasTables) (a : α) (f : α → Response × Registry) :
    site.proceed (.ok a) f = f a := if_pos ht

/-- **What is not accepted changes nothing**, and it is refused if it can be quoted. -/
theorem withBody_refused {x : Body → Checked α} {f : α → Response × Registry}
    (h : ∀ body a, Body.read r = .ok body → x body ≠ .ok a)
    (hx : ∀ body, (x body).Quotable ↔ (draft body).Quotable) :
    (site.withBody r fun body => site.proceed (x body) f).2 = site.registry ∧
      (Quotable r → (site.withBody r fun body => site.proceed (x body) f).1.status = 400) ∧
      (¬Quotable r → (site.withBody r fun body => site.proceed (x body) f).1.status = 500) := by
  unfold withBody
  cases hbody : Body.read r with
  | error response =>
    have hquotable : Quotable r := by
      intro body hb
      rw [hbody] at hb
      cases hb
    exact ⟨rfl, fun _ => status_of_unread hbody, fun hq => absurd hquotable hq⟩
  | ok body =>
    have hquotable : Quotable r ↔ (x body).Quotable := by
      rw [hx]
      unfold Quotable
      rw [hbody]
      constructor
      · exact fun hq => hq body rfl
      · rintro hq _ ⟨⟩
        exact hq
    dsimp only
    unfold proceed
    cases hd : x body with
    | ok a => exact absurd hd (h body a hbody)
    | faulty issues =>
      rw [hquotable]
      exact ⟨rfl, status_ofIssues hd⟩

/-! ## A new country -/

theorem create_refused (site : Site) (segment : List Char) (h : ∀ d, ¬Carries r d) :
    (site.serve r segment .create).2 = site.registry ∧
      (Quotable r → (site.serve r segment .create).1.status = 400) ∧
      (¬Quotable r → (site.serve r segment .create).1.status = 500) :=
  withBody_refused (fun body d hbody hd => h d ⟨body, hbody, hd⟩) fun _ => Iff.rfl

theorem serve_create_of_carries (ht : site.hasTables) (h : Carries r d) :
    site.serve r segment .create = site.create r d := by
  obtain ⟨body, hbody, hd⟩ := h
  unfold serve withBody
  rw [hbody]
  dsimp only
  rw [hd, proceed_ok ht]

/-- **A draft that clashes changes nothing**, and the first clash is told. -/
theorem create_clashing {c : Conflict} (h : site.registry.conflict d none = .ok (some c)) :
    site.create r d = (conflictAnswer c, site.registry) := by
  unfold create
  rw [h]

/-- **A draft that does not clash is written and told**, with the address of the new country. -/
theorem create_written {now : Instant} (hnow : site.registry.now = .ok now)
    (htells : site.tellsAddress) (h : site.registry.conflict d none = .ok none) :
    ∃ row t, site.registry.store.create now (columns d.fields) = .ok (row, t) ∧
      site.create r d =
        ({ Response.ok (t.detail row).json with
            status := 201, location := some (site.countryAddress r row.id) },
          site.registry.wrote t) := by
  have hclash := (conflict_eq_none_iff rfl).mp (Registry.conflict_eq_ok_iff.mp h)
  rcases site.registry.store.create_columns now d.fields with ⟨⟨row, t⟩, hs, -⟩ | ⟨_, -, hkey⟩
  · refine ⟨row, t, hs, ?_⟩
    have hcreate : site.registry.create d = (.ok (t.detail row), site.registry.wrote t) := by
      rw [Registry.create_eq, hnow]
      dsimp only
      rw [hs]
    unfold create
    rw [h, hcreate]
    dsimp only [answer, createdAnswer]
    rw [if_pos htells]
    rfl
  · obtain ⟨m, hm, hmclash⟩ := hkey
    exact absurd hmclash (hclash m (List.mem_append_left _ hm))

/-! ## New values for a country -/

/-- The path holds the number of a country, and the request carries an accepted draft. -/
def Replaces (segment : List Char) (r : Request) (id : Int) (d : Draft) : Prop :=
  idParameter segment = .ok id ∧ Carries r d

theorem quotable_idParameter (segment : List Char) : (idParameter segment).Quotable :=
  Checked.quotable_under_iff.mpr (Checked.quotable_under_iff.mpr (quotable_integer rfl))

theorem update_refused (site : Site) (h : ∀ id d, ¬Replaces segment r id d) :
    (site.serve r segment .update).2 = site.registry ∧
      (Quotable r → (site.serve r segment .update).1.status = 400) ∧
      (¬Quotable r → (site.serve r segment .update).1.status = 500) := by
  refine withBody_refused (fun body x hbody hx => ?_) fun body => ?_
  · obtain ⟨hid, hd⟩ := pair_eq_ok_iff.mp hx
    exact h x.1 x.2 ⟨hid, body, hbody, hd⟩
  · rw [Checked.quotable_seq_iff, Checked.quotable_map_iff, and_iff_right (quotable_idParameter _)]

theorem serve_update_of_replaces (ht : site.hasTables) (h : Replaces segment r id d) :
    site.serve r segment .update = site.update id d := by
  obtain ⟨hid, body, hbody, hd⟩ := h
  unfold serve withBody
  rw [hbody]
  dsimp only
  rw [pair_eq_ok_iff.mpr ⟨hid, hd⟩, proceed_ok ht]

/-- **A country that does not exist is not replaced.** -/
theorem update_absent (h : site.registry.contains id = .ok false) :
    site.update id d = (noCountry id, site.registry) := by
  unfold update
  rw [h]

theorem update_clashing {c : Conflict} (hin : site.registry.contains id = .ok true)
    (h : site.registry.conflict d (some id) = .ok (some c)) :
    site.update id d = (conflictAnswer c, site.registry) := by
  unfold update
  rw [hin]
  dsimp only
  rw [h]

theorem update_written {now : Instant} (hnow : site.registry.now = .ok now)
    (hin : site.registry.contains id = .ok true)
    (h : site.registry.conflict d (some id) = .ok none) :
    ∃ row t, site.registry.store.replace now id (columns d.fields) = .ok (some (row, t)) ∧
      site.update id d = (.ok (t.detail row).json, site.registry.wrote t) := by
  have hfits := Registry.fits_of_contains hin
  have hclash := (conflict_eq_none_iff hfits).mp (Registry.conflict_eq_ok_iff.mp h)
  rcases replace_columns (Registry.contains_eq_ok_iff.mp hin) now d.fields with
    ⟨⟨row, t⟩, hs, -⟩ | ⟨_, -, hkey⟩
  · refine ⟨row, t, hs, ?_⟩
    have hupdate : site.registry.update id d =
        (.ok (some (t.detail row)), site.registry.wrote t) := by
      rw [Registry.update_eq, hin]
      dsimp only
      rw [hnow]
      dsimp only
      rw [hs]
    unfold update
    rw [hin]
    dsimp only
    rw [h, hupdate]
    rfl
  · obtain ⟨m, hm, hmclash⟩ := hkey
    exact absurd hmclash (hclash m (List.mem_append_left _ hm))

/-! ## Asking for a country and deleting it -/

theorem serve_country (ht : site.hasTables) (hid : idParameter segment = .ok id) :
    site.serve r segment .country = answer (countryAnswer id) (site.registry.country id) := by
  unfold serve
  dsimp only
  rw [hid, proceed_ok ht]

theorem serve_delete (ht : site.hasTables) (hid : idParameter segment = .ok id) :
    site.serve r segment .delete = answer (deletedAnswer id) (site.registry.delete id) := by
  unfold serve
  dsimp only
  rw [hid, proceed_ok ht]

/-- **A country that is stored is told as it is stored.** -/
theorem country_of_stored (site : Site) {row : CountryRow} (hfresh : site.registry.Fresh)
    (hends : site.registry.lifetimes.HaveEnds site.registry.clock) (ht : site.hasTables)
    (hfits : fits id) (hrow : site.registry.store.country? id = some row)
    (hid : idParameter segment = .ok id) :
    (site.serve r segment .country).1 = .ok (site.registry.store.detail row).json := by
  have hload : (Query.country id).load site.registry.store =
      .ok (some (.country (site.registry.store.detail row))) := by
    unfold Query.load
    dsimp only
    rw [checkId_of_fits hfits, ok_bind, detail?, hrow]
    rfl
  have hread := Registry.read_told (q := .country id) hfresh trivial hends
  rw [hload] at hread
  rw [serve_country ht hid]
  unfold answer Registry.country
  rw [hread]
  rfl

end Site

end Gazetteer.Http
