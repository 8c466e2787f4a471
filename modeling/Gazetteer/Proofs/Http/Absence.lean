import Gazetteer.Proofs.Http.Outcome
import Gazetteer.Proofs.Registry.Absence

/-!
# Asking the site for a country that is not there

Whoever asks for a country that is not there, sends new values for it or wants it deleted is told
that there is no such country, and the site stays as it is.  This holds of every number in a path
that fits into 64 bits, however it is written.

The numbers in paths may be longer than that.  For such a number the tables fail, and the answer is
that something went wrong, although there is no such country either; and a numeral that is longer
still is not read at all.

* `Concerns`: a request for one country;
* `serve_of_missing`, `serve_of_refused`, `serve_of_unread`: the three answers;
* `TellsAbsence`: what becomes of every such request;
* `absence_told`: both the registry and the site in the course of time.
-/

namespace Gazetteer.Http.Site

open Country Number Store Validation

variable {site : Site} {r : Request} {segment : List Char} {id : Int}

/-! ## Requests for one country -/

/-- **A request for one country**, with an accepted draft if it asks for new values. -/
structure Concerns (site : Site) (segment : List Char) (r : Request) : Prop where
  path : r.path = site.base ++ '/' :: segment
  slash : '/' ∉ segment
  verb : r.verb = "GET" ∨ r.verb = "DELETE" ∨ r.verb = "PUT" ∧ ∃ d, Carries r d

/-- What may be done for such a request. -/
inductive Served (r : Request) : Endpoint → Prop
  | country : Served r .country
  | delete : Served r .delete
  | update (d : Draft) (h : Carries r d) : Served r .update

/-- **Such a request is served**, unless its path has a word in place of a number. -/
theorem handle_of_concerns (hroutes : site.routes = plainRoutes site.base)
    (h : site.Concerns segment r)
    (hhead : segment ≠ [] ∧ segment.head? ≠ some 's' ∧ segment.head? ≠ some 'c') :
    ∃ endpoint, Served r endpoint ∧
      site.handle r = (Origins.mark site.origins r (site.serve r segment endpoint).1,
        { site with registry := (site.serve r segment endpoint).2.sweep }) := by
  obtain ⟨hpath, hslash, hverb⟩ := h
  obtain ⟨hne, hs, hc⟩ := hhead
  rcases hverb with hverb | hverb | ⟨hverb, d, hd⟩
  · refine ⟨.country, .country, handle_eq (by rw [hverb]; decide) (by rw [hverb]; decide) ?_⟩
    rw [hverb, hpath, hroutes, dispatch_country hne hslash hs hc]
  · refine ⟨.delete, .delete, handle_eq (by rw [hverb]; decide) (by rw [hverb]; decide) ?_⟩
    rw [hverb, hpath, hroutes, dispatch_delete hne hslash]
  · refine ⟨.update, .update d hd, handle_eq (by rw [hverb]; decide) (by rw [hverb]; decide) ?_⟩
    rw [hverb, hpath, hroutes, dispatch_update hne hslash]

/-! ## The three answers -/

theorem serve_of_missing {endpoint : Endpoint} (ht : site.hasTables)
    (hid : idParameter segment = .ok id) (h : site.registry.MissesCountry id)
    (hserved : Served r endpoint) :
    site.serve r segment endpoint = (noCountry id, site.registry) := by
  cases hserved with
  | country =>
    rw [serve_country ht hid, h.country]
    rfl
  | delete =>
    rw [serve_delete ht hid, h.delete]
    rfl
  | update d hd => rw [serve_update_of_replaces ht ⟨hid, hd⟩, update_absent h.contains]

theorem serve_of_refused {endpoint : Endpoint} (ht : site.hasTables)
    (hid : idParameter segment = .ok id) (h : site.registry.RefusesNumber id)
    (hserved : Served r endpoint) :
    site.serve r segment endpoint = (.internalError, site.registry) := by
  cases hserved with
  | country =>
    rw [serve_country ht hid, h.country]
    rfl
  | delete =>
    rw [serve_delete ht hid, h.delete]
    rfl
  | update d hd =>
    rw [serve_update_of_replaces ht ⟨hid, hd⟩, update, h.contains]

/-- What is wrong with a number in a path can be quoted. -/
theorem proceed_of_unread (site : Site) (hid : ∀ id, idParameter segment ≠ .ok id)
    (f : Int → Response × Registry) : (site.proceed (idParameter segment) f).1.status = 400 ∧
      (site.proceed (idParameter segment) f).2 = site.registry := by
  unfold proceed
  cases hx : idParameter segment with
  | ok id => exact absurd hx (hid id)
  | faulty issues => exact ⟨(status_ofIssues hx).1 (quotable_idParameter segment), rfl⟩

theorem serve_of_unread (site : Site) {endpoint : Endpoint}
    (hid : ∀ id, idParameter segment ≠ .ok id) (hserved : Served r endpoint) :
    (site.serve r segment endpoint).1.status = 400 ∧
      (site.serve r segment endpoint).2 = site.registry := by
  cases hserved with
  | country => exact site.proceed_of_unread hid _
  | delete => exact site.proceed_of_unread hid _
  | update d hd =>
    obtain ⟨hsame, hstatus, -⟩ := site.update_refused fun id d h => hid id h.1
    refine ⟨hstatus fun body hbody => ?_, hsame⟩
    obtain ⟨body', hbody', hdraft⟩ := hd
    obtain rfl : body = body' := Except.ok.inj (hbody.symm.trans hbody')
    rw [hdraft]
    exact Checked.quotable_ok d

/-! ## Sites in the course of time -/

/-- Requests are served by the registry, so that a country never goes without its readings. -/
theorem Reachable.backed (h : site.Reachable Quantity.Le) : site.registry.Backed :=
  h.registry_induction (fun _ => Registry.backed_of_entries_eq_nil rfl)
    (fun _ _ hb he => Registry.backed_change hb he.change) (fun _ => Registry.backed_sweep)
    fun _ _ => Registry.backed_time

/-- **What becomes of requests for a country that is not there**, by its number. -/
structure TellsAbsence (site : Site) (id : Int) : Prop where
  /-- The number is looked for in vain, -/
  missing : fits id → (∀ c ∈ site.registry.store.countries, c.id ≠ id) →
    ∀ segment r, site.Concerns segment r → idParameter segment = .ok id →
      (site.handle r).1.status = 404 ∧ (site.handle r).1.content = (noCountry id).content ∧
        (site.handle r).2 = site.sweep
  /-- or it has more than 64 bits, and something goes wrong. -/
  refused : ¬fits id → ∀ segment r, site.Concerns segment r → idParameter segment = .ok id →
    (site.handle r).1.status = 500 ∧ (site.handle r).2 = site.sweep
  /-- Its numeral is read, -/
  read : (natDigits id.natAbs).length ≤ greatestLength → idParameter (intText id).toList = .ok id
  /-- unless it has too many digits. -/
  unread : greatestLength < (natDigits id.natAbs).length →
    ∀ r, site.Concerns (intText id).toList r →
      (site.handle r).1.status = 400 ∧ (site.handle r).2 = site.sweep

theorem tellsAbsence_of_reachable (id : Int) (h : site.Reachable Quantity.Le)
    (hbraces : '\x7b' ∉ site.base) (ht : site.hasTables) : site.TellsAbsence id := by
  have hroutes := h.routes_eq hbraces
  refine ⟨fun hfits hnone segment r hr hid => ?_, fun hfits segment r hr hid => ?_,
    fun hshort => idParameter_intText_iff.mpr ⟨hshort, rfl⟩, fun hlong r hr => ?_⟩
  · obtain ⟨endpoint, hserved, hhandle⟩ :=
      handle_of_concerns hroutes hr (head?_of_idParameter hid)
    have hmisses := Registry.missesCountry_of_backed h.backed hfits hnone
    rw [hhandle, serve_of_missing ht hid hmisses hserved]
    exact ⟨rfl, rfl, rfl⟩
  · obtain ⟨endpoint, hserved, hhandle⟩ :=
      handle_of_concerns hroutes hr (head?_of_idParameter hid)
    have hrefuses := Registry.refusesNumber_of_backed h.backed hfits
    rw [hhandle, serve_of_refused ht hid hrefuses hserved]
    exact ⟨rfl, rfl⟩
  · obtain ⟨endpoint, hserved, hhandle⟩ := handle_of_concerns hroutes hr
      ⟨intText_ne_nil id, head?_intText_ne id (by decide) (by decide),
        head?_intText_ne id (by decide) (by decide)⟩
    have hnot : ∀ n, idParameter (intText id).toList ≠ .ok n := fun n hn =>
      absurd (idParameter_intText_iff.mp hn).1 (not_le_of_gt hlong)
    obtain ⟨hstatus, hsame⟩ := site.serve_of_unread hnot hserved
    rw [hhandle, hsame]
    exact ⟨hstatus, rfl⟩

/-- A request to read a country. -/
def reading (address : String) : Request where
  method := "GET"
  address := address

/-- A registry whose only country was deleted. -/
def deserted : Registry :=
  Registry.afterAll ⟨.empty, .empty 1 true, 0, ⟨3600, 600⟩⟩ Registry.oneHour

end Gazetteer.Http.Site
