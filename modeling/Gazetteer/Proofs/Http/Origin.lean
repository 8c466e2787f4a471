import Gazetteer.Proofs.Http.Outcome
import Gazetteer.Proofs.Settings.Origins
import Gazetteer.Proofs.Url.Origin

/-!
# Pages of other sites

The origins that a service is set up with are kept as addresses, and an address ends in a slash,
whereas the origin that a browser tells does not.  So the site allows no origin of any page: neither
those that it was set up with nor others.

* `allowed?_eq_some_iff`: the requests whose origin is allowed;
* `ShutsOut`, `shutsOut`: what a page gets of a site that was set up with its origin;
* `shutsOut_of_read`: from the settings to the requests.
-/

namespace Gazetteer.Http

open Number Validation

namespace Origins

theorem allowed?_eq_some_iff {origins : List String} {r : Request} {told : String} :
    allowed? origins r = some told ↔ r.header? "origin" = some told ∧ told ∈ origins := by
  rw [allowed?, Option.filter_eq_some_iff, List.contains_iff_mem]

theorem allowed?_eq_none {origins : List String} {r : Request} {told : String}
    (hr : r.header? "origin" = some told) (h : told ∉ origins) : allowed? origins r = none := by
  rw [allowed?, hr]
  simpa using h

end Origins

namespace Site

variable {site : Site} {os : List Origin}

/-- The site after a row of requests. -/
def afterAll (site : Site) (rs : List Request) : Site :=
  rs.foldl (fun site r => (site.handle r).2) site

theorem origins_afterAll (site : Site) (rs : List Request) :
    (site.afterAll rs).origins = site.origins := by
  induction rs generalizing site with
  | nil => rfl
  | cons r rs ih =>
    obtain ⟨registry, -, hr⟩ := handle_frame site r
    rw [afterAll, List.foldl_cons, ← afterAll, ih, hr]

/-- **Every answer tells whether the origin of the request is allowed.** -/
theorem allowedOrigin_handle (site : Site) (r : Request) :
    (site.handle r).1.allowedOrigin = Origins.allowed? site.origins r := by
  unfold handle
  cases hp : Origins.preflight? site.origins r with
  | none => rfl
  | some response =>
    unfold Origins.preflight? at hp
    split at hp
    · cases hp
    · obtain ⟨method, -, rfl⟩ := Option.map_eq_some_iff.mp hp
      dsimp only
      unfold Origins.preflight
      split <;> rfl

/-- **A browser that asks first** is answered by what is allowed. -/
theorem handle_of_preflight {r : Request} {told method : String} (hne : site.origins ≠ [])
    (hverb : r.verb = "OPTIONS") (horigin : r.header? "origin" = some told)
    (hmethod : r.header? "access-control-request-method" = some method) :
    (site.handle r).1 = Origins.preflight site.origins r method := by
  have hp : Origins.preflight? site.origins r =
      some (Origins.preflight site.origins r method) := by
    unfold Origins.preflight?
    rw [if_neg (by simp [hne, hverb, horigin]), hmethod, Option.map_some]
  unfold handle
  rw [hp]

/-- **What a page gets of a site that was set up with some origins**: nothing that it may see. -/
structure ShutsOut (os : List Origin) (site : Site) : Prop where
  /-- The site allows the origins with a slash behind them, -/
  origins : site.origins = os.map (·.text ++ "/")
  /-- and these are no origins of pages. -/
  foreign : ∀ o : Origin, o.text ∉ site.origins
  /-- So no page may see an answer, -/
  unseen : ∀ (o : Origin) (r : Request), r.header? "origin" = some o.text →
    Origins.allowed? site.origins r = none ∧ (site.handle r).1.allowedOrigin = none
  /-- and a browser that asks first is turned away, on account of the origin. -/
  refused : os ≠ [] → ∀ (o : Origin) (r : Request) (method : String), r.verb = "OPTIONS" →
    r.header? "origin" = some o.text → r.header? "access-control-request-method" = some method →
      (site.handle r).1.status = 400 ∧ "origin" ∈ Origins.refusals site.origins r method
  /-- Only who tells one of the origins with a slash behind it is let in. -/
  slashed : ∀ (r : Request) (told : String), Origins.allowed? site.origins r = some told ↔
    r.header? "origin" = some told ∧ ∃ o ∈ os, told = o.text ++ "/"

theorem shutsOut (h : site.origins = os.map (·.address.text)) : site.ShutsOut os := by
  have horigins : site.origins = os.map (·.text ++ "/") := by
    rw [h]
    exact List.map_congr_left fun o _ => o.text_address
  have hforeign : ∀ o : Origin, o.text ∉ site.origins := by
    intro o hmem
    rw [horigins] at hmem
    obtain ⟨o', -, heq⟩ := List.mem_map.mp hmem
    exact o.text_ne_slash o'.text heq.symm
  have hnone : ∀ (o : Origin) (r : Request), r.header? "origin" = some o.text →
      Origins.allowed? site.origins r = none := fun o r hr =>
    Origins.allowed?_eq_none hr (hforeign o)
  refine ⟨horigins, hforeign, fun o r hr => ⟨hnone o r hr, ?_⟩,
    fun hne o r method hverb hr hmethod => ?_, fun r told => ?_⟩
  · rw [allowedOrigin_handle, hnone o r hr]
  · have hrefused : Origins.refusals site.origins r method =
        "origin" :: (Origins.refusals site.origins r method).tail := by
      rw [Origins.refusals, hnone o r hr]
      rfl
    have hsome : site.origins ≠ [] := by
      rw [horigins]
      simpa using hne
    rw [handle_of_preflight hsome hverb hr hmethod, Origins.preflight, hrefused]
    exact ⟨rfl, List.mem_cons_self⟩
  · rw [Origins.allowed?_eq_some_iff, horigins, List.mem_map]
    simp only [eq_comm]

/-- **A configured origin is not an allowed one**: a service is set up with a list of origins, and
after any requests no page of any of them is let in. -/
theorem shutsOut_of_read {arguments : List (String × Json)} {environment : List (String × String)}
    {s : Settings} (os : List Origin) (hs : Settings.read arguments environment = .ok s)
    (ha : ∀ f ∈ arguments, f.1 ≠ Settings.originsName) :
    Settings.read ((Settings.originsName, .array (os.map (.text ·.text))) :: arguments)
        environment = .ok { s with origins := os.map Origin.address } ∧
      ∀ site, opened { s with origins := os.map Origin.address } = .ok site →
        ∀ rs, (site.afterAll rs).ShutsOut os := by
  constructor
  · have hlist : Settings.readOrigins (.array (os.map (.text ·.text))) =
        .ok (os.map Origin.address) := by
      rw [Settings.readOrigins, items, Checked.all_eq_ok_iff, List.map_map, List.map_map]
      refine List.map_congr_left fun o _ => ?_
      simp only [Function.comp, webAddress, o.read_text, o.isWeb_address, if_true]
    have hflat : ∀ fields, Json.array (os.map (.text ·.text)) ≠ .object fields := by simp
    rw [Settings.read_argument hs ha hflat, hlist]
    rfl
  · intro site ho rs
    refine shutsOut ?_
    rw [origins_afterAll, (opened_eq_ok ho).2.2, List.map_map]
    rfl

/-- An origin on the machine itself. -/
def localOrigin (host : String) (port : Nat) (hw : Host.normalize host.toList = .ok host)
    (hp : ∀ n ∈ some port, n ≤ 65535 ∧ Address.usualPorts.lookup "http" ≠ some (natText n)) :
    Origin := ⟨"http", host, some port, Or.inl rfl, hw, hp⟩

/-- The origins of a service that is given none. -/
def defaultOrigins : List Origin :=
  [localOrigin "localhost" 3000 (by decide +kernel) (by decide),
    localOrigin "localhost" 8000 (by decide +kernel) (by decide),
    localOrigin "127.0.0.1" 8000 (by decide +kernel) (by decide)]

theorem shutsOut_defaults :
    Settings.read [] [] = .ok Settings.default ∧
    defaultOrigins.map (·.text) =
      ["http://localhost:3000", "http://localhost:8000", "http://127.0.0.1:8000"] ∧
    defaultOrigins.map Origin.address = Settings.default.origins ∧
    opened Settings.default = .ok initial ∧
    ∀ rs, (initial.afterAll rs).ShutsOut defaultOrigins := by
  have hs : Settings.read [] [] = .ok Settings.default :=
    Settings.eq_ok_of_toOption (by decide +kernel)
  have haddresses : defaultOrigins.map Origin.address = Settings.default.origins := by
    decide +kernel
  refine ⟨hs, by decide +kernel, haddresses, opened_default, ?_⟩
  refine (shutsOut_of_read defaultOrigins hs nofun).2 initial ?_
  rw [haddresses]
  exact opened_default

/-- A request from a page. -/
def fromPage (origin : String) : Request where
  method := "GET"
  address := "/countries/v1/continents"
  headers := [("Origin", origin)]

/-- **A page of a configured origin sees no answer.** -/
theorem unseen_localhost :
    let texts := ["http://localhost:3000", "http://localhost:8000", "http://127.0.0.1:8000"]
    Settings.read [(Settings.originsName, .array (texts.map .text))] [] = .ok Settings.default ∧
    opened Settings.default = .ok initial ∧ (∀ t ∈ texts, t ∉ initial.origins) ∧
    (initial.handle (fromPage "http://localhost:3000")).1.allowedOrigin = none ∧
    (initial.handle (fromPage "http://localhost:3000/")).1.allowedOrigin =
      some "http://localhost:3000/" := by
  intro texts
  refine ⟨Settings.eq_ok_of_toOption (by decide +kernel), opened_default, by decide +kernel, ?_, ?_⟩
  · rw [allowedOrigin_handle]
    decide +kernel
  · rw [allowedOrigin_handle]
    decide +kernel

end Site

end Gazetteer.Http
