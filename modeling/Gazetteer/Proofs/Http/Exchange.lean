import Gazetteer.Http.Site
import Gazetteer.Proofs.Country.Draft
import Gazetteer.Proofs.Registry.Transparency

/-!
# What a request does to a site

Whatever a client sends, and however it is answered, the tables and the cache change in one of few
ways, `Effect`: not at all, by a reading, or by one of the three writes.  A draft is written only if
it was accepted and nothing in it clashes.  All else that makes up a site stays as it is.

* `Effect`, `effect_respond`: what a request does to the registry; `Effect.store_cases`: what that
  does to the tables;
* `handle_frame`: what it leaves alone; `handle_eq`: the answer to a request that is not a browser's
  question;
* `Reachable`: the sites that requests lead to; `fresh_of_reachable`: their readings are fresh.
-/

namespace Gazetteer.Http.Site

open Country Number Validation

variable {site : Site}

/-! ## One request -/

/-- **What a request does to a registry.** -/
inductive Effect (r : Registry) : Registry → Prop
  | nothing : Effect r r
  | reading (q : Query) (hq : q.Normal) : Effect r (r.read q).2
  | created (d : Draft) (hd : d.fields.Valid) (hfree : r.conflict d none = .ok none) :
      Effect r (r.create d).2
  | updated (id : Int) (d : Draft) (hd : d.fields.Valid) (hin : r.contains id = .ok true)
      (hfree : r.conflict d (some id) = .ok none) : Effect r (r.update id d).2
  | deleted (id : Int) : Effect r (r.delete id).2

/-- An effect is a change. -/
theorem Effect.change {r r' : Registry} (h : Effect r r') : r.Change r' := by
  cases h with
  | nothing => exact .nothing
  | reading q hq => exact .reading q hq
  | created d => exact Registry.change_create r d
  | updated id d => exact Registry.change_update r id d
  | deleted id => exact Registry.change_delete r id

/-- **What an effect does to the tables**: nothing, or one of the three writes. -/
theorem Effect.store_cases {r r' : Registry} (h : Effect r r') :
    r'.store = r.store ∨
    (∃ (d : Draft) (now : Instant) (row : CountryRow), d.fields.Valid ∧
      r.conflict d none = .ok none ∧
      r.store.create now (Store.columns d.fields) = .ok (row, r'.store)) ∨
    (∃ (id : Int) (d : Draft) (now : Instant) (row : CountryRow), d.fields.Valid ∧
      r.contains id = .ok true ∧ r.conflict d (some id) = .ok none ∧
      r.store.replace now id (Store.columns d.fields) = .ok (some (row, r'.store))) ∨
    ∃ id : Int, r.store.remove id = .ok (some r'.store) := by
  cases h with
  | nothing => exact Or.inl rfl
  | reading q hq =>
    obtain ⟨c, hr⟩ := Registry.read_frame r q
    rw [hr]
    exact Or.inl rfl
  | created d hd hfree =>
    rcases r.create_cases d with ⟨now, row, t, -, hs, hr⟩ | ⟨fault, hr⟩
    · rw [hr]
      exact Or.inr (Or.inl ⟨d, now, row, hd, hfree, hs⟩)
    · rw [hr]
      exact Or.inl rfl
  | updated id d hd hin hfree =>
    rcases r.update_cases id d with ⟨now, row, t, -, hs, hr⟩ | ⟨x, hr, -⟩
    · rw [hr]
      exact Or.inr (Or.inr (Or.inl ⟨id, d, now, row, hd, hin, hfree, hs⟩))
    · rw [hr]
      exact Or.inl rfl
  | deleted id =>
    rcases r.delete_cases id with ⟨t, hs, hr⟩ | ⟨x, hr, -⟩
    · rw [hr]
      exact Or.inr (Or.inr (Or.inr ⟨id, hs⟩))
    · rw [hr]
      exact Or.inl rfl

@[simp] theorem answer_snd (f : α → Response) (x : Except Registry.Fault α × Registry) :
    (answer f x).2 = x.2 := by
  unfold answer
  cases x.1 <;> rfl

theorem effect_proceed {x : Checked α} {f : α → Response × Registry}
    (h : ∀ a, x = .ok a → Effect site.registry (f a).2) :
    Effect site.registry (site.proceed x f).2 := by
  unfold proceed
  cases x with
  | faulty issues => exact .nothing
  | ok a =>
    dsimp only
    split
    · exact h a rfl
    · exact .nothing

theorem effect_withBody {r : Request} {f : Body → Response × Registry}
    (h : ∀ body, Body.read r = .ok body → Effect site.registry (f body).2) :
    Effect site.registry (site.withBody r f).2 := by
  unfold withBody
  cases hb : Body.read r with
  | error response => exact .nothing
  | ok body => exact h body hb

/-- **The values of an accepted draft may be stored.** -/
theorem valid_of_draft {body : Body} {d : Draft} (h : draft body = .ok d) : d.fields.Valid := by
  unfold draft Body.check at h
  cases body with
  | nothing => exact absurd (Checked.under_eq_ok_iff.mp h) Checked.refuse_ne_ok
  | value v => exact Draft.valid_of_read (Checked.under_eq_ok_iff.mp h)

theorem effect_create (r : Request) {d : Draft} (hd : d.fields.Valid) :
    Effect site.registry (site.create r d).2 := by
  unfold create
  split
  · exact .nothing
  · exact .nothing
  · next hfree =>
    rw [answer_snd]
    exact .created d hd hfree

theorem effect_update (id : Int) {d : Draft} (hd : d.fields.Valid) :
    Effect site.registry (site.update id d).2 := by
  unfold update
  split
  · exact .nothing
  · exact .nothing
  · next hin =>
    split
    · exact .nothing
    · exact .nothing
    · next hfree =>
      rw [answer_snd]
      exact .updated id d hd hin hfree

/-- Two parts are accepted together if each of them is. -/
theorem pair_eq_ok_iff {x : Checked α} {y : Checked β} {a : α} {b : β} :
    Prod.mk <$> x <*> y = .ok (a, b) ↔ x = .ok a ∧ y = .ok b := by
  simp only [Checked.seq_eq_ok_iff, Checked.map_eq_ok_iff]
  constructor
  · rintro ⟨_, _, ⟨_, hx, rfl⟩, hy, heq⟩
    cases heq
    exact ⟨hx, hy⟩
  · rintro ⟨hx, hy⟩
    exact ⟨_, b, ⟨a, hx, rfl⟩, hy, rfl⟩

theorem normal_of_searchRequest {pairs : List (String × String)} {request : Search.Request}
    (h : searchRequest pairs = .ok request) : request.Normal := by
  obtain ⟨_, -, h⟩ := Checked.andThen_eq_ok_iff.mp h
  exact Search.Request.normal_of_ofFields h

/-- Each endpoint has one of the effects. -/
theorem effect_serve (site : Site) (r : Request) (segment : List Char) (endpoint : Endpoint) :
    Effect site.registry (site.serve r segment endpoint).2 := by
  cases endpoint with
  | search =>
    refine effect_proceed fun request hrequest => ?_
    rw [answer_snd]
    exact .reading (.search request) (normal_of_searchRequest hrequest)
  | continents =>
    refine effect_proceed fun _ _ => ?_
    rw [answer_snd]
    exact .reading .continents trivial
  | country =>
    refine effect_proceed fun id _ => ?_
    rw [answer_snd]
    exact .reading (.country id) trivial
  | create =>
    exact effect_withBody fun body _ => effect_proceed fun d hd =>
      effect_create r (valid_of_draft hd)
  | update =>
    exact effect_withBody fun body _ => effect_proceed fun (id, d) hd =>
      effect_update id (valid_of_draft (pair_eq_ok_iff.mp hd).2)
  | delete =>
    refine effect_proceed fun id _ => ?_
    rw [answer_snd]
    exact .deleted id
  | welcome => exact .nothing

/-- **What a request does to the registry.** -/
theorem effect_respond (site : Site) (r : Request) :
    Effect site.registry (site.respond r).2 := by
  unfold respond
  split
  · exact effect_serve site r _ _
  · exact .nothing
  · exact .nothing
  · exact .nothing

/-- **What a request leaves alone**, and what it does to the registry. -/
theorem handle_frame (site : Site) (r : Request) : ∃ registry, Effect site.registry registry ∧
    (site.handle r).2 = { site with registry := registry.sweep } := by
  unfold handle
  split
  · exact ⟨site.registry, .nothing, rfl⟩
  · exact ⟨(site.respond r).2, effect_respond site r, rfl⟩

/-- **A request that is not a browser's question is answered by the endpoint.** -/
theorem handle_eq {r : Request} {endpoint : Endpoint} {segment : List Char}
    (hverb : r.verb ≠ "OPTIONS") (hhead : r.verb ≠ "HEAD")
    (hd : dispatch site.routes r.verb r.path = .to endpoint segment) :
    site.handle r = (Origins.mark site.origins r (site.serve r segment endpoint).1,
      { site with registry := (site.serve r segment endpoint).2.sweep }) := by
  have hask : Origins.preflight? site.origins r = none := by
    unfold Origins.preflight?
    rw [if_pos (Or.inr (Or.inl hverb))]
  have hrespond : site.respond r = site.serve r segment endpoint := by
    unfold respond
    rw [hd]
  unfold handle
  rw [hask, hrespond]
  dsimp only
  rw [if_neg hhead]
  rfl

/-! ## Runs -/

/-- **The sites that requests lead to**, handled one after another from the opening of the site on;
between them time passes, in so far as `Passes` allows it. -/
inductive Reachable (Passes : Quantity → Quantity → Prop) : Site → Prop
  | opened {site : Site} (s : Settings) : opened s = .ok site → Reachable Passes site
  | handle {site : Site} (r : Request) : Reachable Passes site → Reachable Passes (site.handle r).2
  | advance {site later : Site} (seconds : Quantity) : Reachable Passes site →
      site.advance seconds = .ok later → Passes site.registry.clock later.registry.clock →
      Reachable Passes later

theorem advance_eq_ok {later : Site} {seconds : Quantity} (h : site.advance seconds = .ok later) :
    ∃ clock, later = { site with registry := { site.registry with clock } } := by
  unfold advance Registry.advance at h
  cases hc : Clock.advance site.registry.clock seconds with
  | error fault => rw [hc] at h; cases h
  | ok clock =>
    rw [hc] at h
    cases h
    exact ⟨clock, rfl⟩

/-- A site at its beginning. -/
theorem opened_eq_ok {s : Settings} (h : opened s = .ok site) :
    ('\x7b' ∉ site.base → (Route.all site.base).mapM route = .ok site.routes) ∧
      site.registry = .empty s (Registry.cacheOf s) ∧
      site.origins = s.origins.map Address.text := by
  unfold opened at h
  dsimp only at h
  split at h
  · cases h
  · split at h
    · cases h
    · obtain ⟨routes, hroutes, h⟩ := bind_eq_ok_iff.mp h
      cases h
      split
      · exact ⟨fun hbraces => absurd (List.mem_singleton_self _) hbraces, rfl, rfl⟩
      · exact ⟨fun _ => hroutes, rfl, rfl⟩

/-- **What holds of a registry without countries and survives all effects**, sweeping and the
passing of time holds of the registry of every site that requests lead to. -/
theorem Reachable.registry_induction {Passes : Quantity → Quantity → Prop} {P : Registry → Prop}
    (hempty : ∀ s, P (.empty s (Registry.cacheOf s)))
    (heffect : ∀ r r', P r → Effect r r' → P r') (hsweep : ∀ r, P r → P r.sweep)
    (htime : ∀ r clock, P r → Passes r.clock clock → P { r with clock })
    (h : site.Reachable Passes) : P site.registry := by
  induction h with
  | opened s hs =>
    rw [(opened_eq_ok hs).2.1]
    exact hempty s
  | @handle site r _ ih =>
    obtain ⟨registry, he, hr⟩ := handle_frame site r
    rw [hr]
    exact hsweep _ (heffect _ _ ih he)
  | advance seconds _ ha ht ih =>
    obtain ⟨clock, rfl⟩ := advance_eq_ok ha
    exact htime _ _ ih ht

/-- The routes of a site that requests lead to are those of its beginning. -/
theorem Reachable.routes {Passes : Quantity → Quantity → Prop} (h : site.Reachable Passes) :
    '\x7b' ∉ site.base → (Route.all site.base).mapM route = .ok site.routes := by
  induction h with
  | opened s hs => exact (opened_eq_ok hs).1
  | @handle site r _ ih =>
    obtain ⟨registry, -, hr⟩ := handle_frame site r
    rw [hr]
    exact ih
  | advance seconds _ ha _ ih =>
    obtain ⟨clock, rfl⟩ := advance_eq_ok ha
    exact ih

/-- **If the clock is not set back, live readings are fresh.** -/
theorem Reachable.fresh (h : site.Reachable Quantity.Le) : site.registry.Fresh := by
  refine h.registry_induction (fun s e he => ?_) (fun r r' hf he => ?_) (fun r hf => ?_)
    fun r clock hf ht => ?_
  · cases he
  · exact Registry.fresh_change hf he.change
  · exact Registry.fresh_sweep hf
  · exact Registry.fresh_time hf ht

end Gazetteer.Http.Site
