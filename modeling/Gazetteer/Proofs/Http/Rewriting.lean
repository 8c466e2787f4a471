import Gazetteer.Proofs.Http.Dialling
import Gazetteer.Proofs.Registry.Rewriting

/-!
# What is told of a country can be sent back

A client that is told of a country may send it back as it is, its dialling codes in one text.  Such
a request is never refused: the values are accepted and put into the form that they have, they clash
with no other country, and the answer tells of the country as before.  Only the date of its last
modification and the numbers of its dialling codes may be others.  So it remains if the same is sent
again and again, however much time passes in between.

* `Body.read_body`: the text of a country that is sent back is read;
* `tidy_of_reachable`, `hasTables_of_mem`: what holds of the tables whatever was requested;
* `Puts`: a request with new values for a country; `handle_puts`: what comes of the values that the
  country has;
* `Resent`: sites at which the same is sent again and again; `Resent.alike`: what they tell;
* `writesBack_of_reachable`: all of it, for every site that requests lead to.
-/

namespace Gazetteer.Http

open Country Number Store Text Validation

/-! ## The text that is sent -/

/-- A text that begins with a brace and a quote is written in units of eight bits. -/
theorem Body.textOfOctets?_encode (cs : List Char) :
    Json.textOfOctets? (Utf8.encode ('\x7b' :: '"' :: cs)) = some ('\x7b' :: '"' :: cs) := by
  have hform : ∀ octets, Json.octetForm (0x7B :: 0x22 :: octets) = .eight := by
    rintro (_ | ⟨_, _ | ⟨_, _⟩⟩) <;> rfl
  have hencode : Utf8.encode ('\x7b' :: '"' :: cs) = 0x7B :: 0x22 :: Utf8.encode cs := by
    rw [Utf8.encode, List.flatMap_cons, List.flatMap_cons, Utf8.encodeChar_of_ascii (by decide),
      Utf8.encodeChar_of_ascii (by decide)]
    rfl
  rw [Json.textOfOctets?, hencode, hform, ← hencode, Utf8.decode_encode]
  rfl

/-- **A country that is sent back is read**, if it is declared to be JSON. -/
theorem Body.read_body {r : Request} {f : Fields} (htext : r.text = f.body.render)
    (htype : r.contentType.any isJson) : Body.read r = .ok (.value f.body) := by
  obtain ⟨cs, hcs⟩ : ∃ cs, f.body.chars = '\x7b' :: '"' :: cs := ⟨_, rfl⟩
  have hrender : f.body.render.toList = '\x7b' :: '"' :: cs := by
    rw [Json.render, String.toList_ofList, hcs]
  have hne : f.body.render ≠ "" := by
    intro hempty
    rw [hempty] at hrender
    cases hrender
  have hread : Json.readWithin { depth := some greatestDepth, digits := r.greatestDigits }
      f.body.render = .ok f.body :=
    Json.readWithin_render (f.plain_body _) fun n hn => by
      cases hn
      decide
  unfold Body.read Body.ofOctets
  rw [htext, if_neg hne, if_pos htype, hrender, textOfOctets?_encode]
  dsimp only
  rw [← hrender, String.ofList_toList, hread]

/-- A value that is accepted as a draft is a draft that the request carries. -/
theorem carries_of_readFor {purpose : Purpose} {r : Request} {v : Json} {d : Draft}
    (hv : Body.read r = .ok (.value v)) (hd : Draft.readFor purpose v = .ok d) : Carries r d := by
  obtain ⟨fields, rfl, hfields⟩ := Draft.readFor_eq_ok_iff.mp hd
  exact ⟨_, hv, Checked.under_eq_ok_iff.mpr hfields⟩

namespace Site

variable {Passes : Quantity → Quantity → Prop} {site later : Site} {r : Request} {id : Int}
  {c : CountryRow}

/-! ## The tables of a site -/

theorem tidy_of_effect {r r' : Registry} (h : r.store.Tidy) (he : Effect r r') :
    r'.store.Tidy := by
  rcases he.store_cases with
    heq | ⟨d, now, row, hd, -, hs⟩ | ⟨id, d, now, row, hd, -, -, hs⟩ | ⟨id, hs⟩
  · exact heq ▸ h
  · exact h.create hd hs
  · exact h.replace hd hs
  · exact h.remove hs

/-- **The tables of a site are tidy**, whatever was requested and whatever the time is. -/
theorem tidy_of_reachable (h : site.Reachable Passes) : site.registry.store.Tidy :=
  h.registry_induction (fun _ => tidy_empty) (fun _ _ => tidy_of_effect) (fun _ ht => ht)
    fun _ _ ht _ => ht

theorem proceed_snd {α : Type} {x : Checked α} {f : α → Response × Registry}
    (ht : ¬site.hasTables) : (site.proceed x f).2 = site.registry := by
  unfold proceed
  cases x with
  | faulty issues => rfl
  | ok a => exact congrArg Prod.snd (if_neg ht)

theorem withBody_snd {f : Body → Response × Registry}
    (hf : ∀ body, (f body).2 = site.registry) : (site.withBody r f).2 = site.registry := by
  unfold withBody
  cases Body.read r with
  | error response => rfl
  | ok body => exact hf body

/-- Without tables no request changes anything. -/
theorem handle_store_of_not_hasTables (ht : ¬site.hasTables) (r : Request) :
    (site.handle r).2.registry.store = site.registry.store := by
  have hserve : ∀ segment endpoint, (site.serve r segment endpoint).2 = site.registry := by
    intro segment endpoint
    cases endpoint with
    | create => exact withBody_snd fun _ => proceed_snd ht
    | update => exact withBody_snd fun _ => proceed_snd ht
    | welcome => rfl
    | _ => exact proceed_snd ht
  have hrespond : (site.respond r).2 = site.registry := by
    unfold respond
    split
    · exact hserve _ _
    · rfl
    · rfl
    · rfl
  unfold handle
  split
  · rfl
  · change (site.respond r).2.store = site.registry.store
    rw [hrespond]

/-- **Where there is a country there are tables.** -/
theorem hasTables_of_mem (h : site.Reachable Passes) (hc : c ∈ site.registry.store.countries) :
    site.hasTables := by
  induction h with
  | opened s hs =>
    rw [(opened_eq_ok hs).2.1] at hc
    cases hc
  | @handle site r _ ih =>
    by_contra ht
    obtain ⟨registry, -, hr⟩ := handle_frame site r
    have hno : ¬site.hasTables := by
      rw [hr] at ht
      exact ht
    rw [handle_store_of_not_hasTables hno] at hc
    exact hno (ih hc)
  | advance seconds _ ha _ ih =>
    obtain ⟨clock, rfl⟩ := advance_eq_ok ha
    exact ih hc

/-! ## One request -/

/-- **A request with new values for a country**, in any text that is read as a value. -/
structure Puts (site : Site) (id : Int) (v : Json) (r : Request) : Prop where
  meets : ∃ segment, site.Meets r .update segment ∧ idParameter segment = .ok id
  carries : Body.read r = .ok (.value v)

/-- What can be sent to a site can be sent to it again. -/
theorem Puts.handle {v : Json} (h : site.Puts id v r) (between : Request) :
    (site.handle between).2.Puts id v r := by
  obtain ⟨registry, -, hr⟩ := handle_frame site between
  obtain ⟨⟨segment, hm, hid⟩, hv⟩ := h
  rw [hr]
  exact ⟨⟨segment, ⟨hm.verb, hm.head, hm.route⟩, hid⟩, hv⟩

/-- The stored values of a country are accepted, and they are the values of a draft. -/
theorem readFor_body (h : site.registry.store.Tidy) (hc : c ∈ site.registry.store.countries) :
    Draft.readFor .replacement (site.registry.store.detail c).body =
      .ok (site.registry.store.fieldsOf c).draft ∧
    (site.registry.store.fieldsOf c).draft.fields = site.registry.store.fieldsOf c := by
  have hvalid := (h.written c hc).valid
  rw [Detail.body, stored_detail]
  exact ⟨hvalid.readFor_body .replacement, hvalid.fields_draft⟩

/-- **Nothing clashes with a country that is sent back.** -/
theorem conflict_draft_fieldsOf (h : site.Reachable Passes)
    (hc : c ∈ site.registry.store.countries) (hfits : fits c.id) :
    site.registry.conflict (site.registry.store.fieldsOf c).draft (some c.id) = .ok none := by
  have htidy := tidy_of_reachable h
  refine (conflict_none_iff (show (some c.id).all fits from hfits)).mpr ?_
  rw [(readFor_body htidy hc).2]
  exact not_clash_fieldsOf htidy (Registry.apart_of_reachable h).tables hc

/-- **What comes of the values that a country has already.**  If the time can be told, the country
is written over itself, and else nothing is done; it is told as before. -/
theorem handle_puts (h : site.Reachable Passes) (hfits : fits id)
    (hc : site.registry.store.country? id = some c)
    (hr : site.Puts id (site.registry.store.detail c).body r) :
    ∃ row, Store.country? (site.storeAfter r) id = some row ∧
      (site.registry.store.detail c).Alike ((site.storeAfter r).detail row) ∧
      ((∃ now, site.registry.now = .ok now) → (site.handle r).1.status = 200 ∧
        (site.handle r).1.content = .json ((site.storeAfter r).detail row).json) := by
  obtain ⟨hmem, rfl⟩ := mem_of_country?_eq_some hc
  obtain ⟨segment, hm, hid⟩ := hr.meets
  have htidy := tidy_of_reachable h
  obtain ⟨hd, hfields⟩ := readFor_body htidy hmem
  have hreplaces : Replaces segment r c.id (site.registry.store.fieldsOf c).draft :=
    ⟨hid, carries_of_readFor hr.carries hd⟩
  have hin : site.registry.contains c.id = .ok true := by
    rw [contains_eq hfits, hc]
    rfl
  have hfree := conflict_draft_fieldsOf h hmem hfits
  unfold storeAfter
  rw [hm.handle_eq, serve_update_of_replaces (hasTables_of_mem h hmem) hreplaces]
  cases hnow : site.registry.now with
  | ok now =>
    obtain ⟨row, t, hs, hupdate⟩ := update_written hnow hin hfree
    rw [hfields] at hs
    rw [hupdate]
    exact ⟨row, country?_of_replace hs, htidy.alike_of_replace hc hs, fun _ => ⟨rfl, rfl⟩⟩
  | error fault =>
    have hupdate : site.update c.id (site.registry.store.fieldsOf c).draft =
        (.internalError, site.registry) := by
      unfold update
      rw [hin]
      dsimp only
      rw [hfree, Registry.update_eq, hin, hnow]
      rfl
    rw [hupdate]
    exact ⟨c, hc, .refl _, nofun⟩

/-! ## The same request again and again -/

/-- **Sites at which the same values are sent again and again** for a country; in between, time
passes. -/
inductive Resent (Passes : Quantity → Quantity → Prop) (id : Int) (v : Json) (site : Site) :
    Site → Prop
  | start : Resent Passes id v site site
  | put {later : Site} (r : Request) : Resent Passes id v site later → later.Puts id v r →
      Resent Passes id v site (later.handle r).2
  | advance {later next : Site} (seconds : Quantity) : Resent Passes id v site later →
      later.advance seconds = .ok next → Passes later.registry.clock next.registry.clock →
      Resent Passes id v site next

/-- **A country that is sent back again and again is told as before.** -/
theorem Resent.alike (hl : Resent Passes id (site.registry.store.detail c).body site later)
    (h : site.Reachable Passes) (hfits : fits id)
    (hc : site.registry.store.country? id = some c) :
    later.Reachable Passes ∧ ∃ row, later.registry.store.country? id = some row ∧
      (site.registry.store.detail c).Alike (later.registry.store.detail row) := by
  induction hl with
  | start => exact ⟨h, c, hc, .refl _⟩
  | @put later r _ hr ih =>
    obtain ⟨hlater, row, hrow, halike⟩ := ih
    rw [← halike.body_eq] at hr
    obtain ⟨next, hnext, hagain, -⟩ := handle_puts hlater hfits hrow hr
    exact ⟨.handle r hlater, next, hnext, halike.trans hagain⟩
  | advance seconds _ ha hp ih =>
    obtain ⟨hlater, row, hrow, halike⟩ := ih
    refine ⟨.advance seconds hlater ha hp, row, ?_⟩
    obtain ⟨clock, rfl⟩ := advance_eq_ok ha
    exact ⟨hrow, halike⟩

/-! ## All of it -/

/-- **What is told of a country can be sent back.** -/
structure WritesBack (Passes : Quantity → Quantity → Prop) (site : Site) : Prop where
  /-- Every country that is stored is accepted as it is told, as a draft of the very values that are
  stored, and nothing clashes with them. -/
  accepted : ∀ c ∈ site.registry.store.countries, ∃ d,
    Draft.readFor .replacement (site.registry.store.detail c).body = .ok d ∧
    d.fields = site.registry.store.fieldsOf c ∧
    (fits c.id → site.registry.conflict d (some c.id) = .ok none)
  /-- Whatever is accepted is put into the form in which it is stored once and for all. -/
  normal : ∀ v d, Draft.readFor .replacement v = .ok d → d.fields.draft.fields = d.fields
  /-- It can be sent to the address of the country, unless there is a brace in it. -/
  sent : '\x7b' ∉ site.base → ∀ (r : Request) (id : Int) (d : Detail), fits id → r.verb = "PUT" →
    r.path = site.base ++ '/' :: (intText id).toList → r.text = d.body.render →
    r.contentType.any Body.isJson → site.Puts id d.body r
  /-- What can be sent can be sent again, whatever was requested in between. -/
  again : ∀ id v r between, site.Puts id v r → (site.handle between).2.Puts id v r
  /-- However often it was sent back, the country is there as before, and if it is sent back once
  more, at a time that can be told, the answer tells of it as before. -/
  told : ∀ c ∈ site.registry.store.countries, fits c.id → ∀ later,
    Resent Passes c.id (site.registry.store.detail c).body site later →
    ∃ row, later.registry.store.country? c.id = some row ∧
      (site.registry.store.detail c).Alike (later.registry.store.detail row) ∧
      ∀ r, later.Puts c.id (site.registry.store.detail c).body r →
        (∃ now, later.registry.now = .ok now) → (later.handle r).1.status = 200 ∧
          ∃ e : Detail, (later.handle r).1.content = .json e.json ∧
            (site.registry.store.detail c).Alike e

theorem puts_of_path (h : site.Reachable Passes) (hbraces : '\x7b' ∉ site.base) (hfits : fits id)
    (hverb : r.verb = "PUT") (hpath : r.path = site.base ++ '/' :: (intText id).toList) {v : Json}
    (hv : Body.read r = .ok (.value v)) : site.Puts id v r := by
  refine ⟨⟨(intText id).toList, ⟨by rw [hverb]; decide, by rw [hverb]; decide, ?_⟩,
    idParameter_intText hfits⟩, hv⟩
  rw [hverb, hpath, h.routes_eq hbraces,
    dispatch_update (intText_ne_nil id) (not_mem_intText (by decide) (by decide))]

/-- **On every site that requests lead to, what is told of a country can be sent back.** -/
theorem writesBack_of_reachable (h : site.Reachable Passes) : site.WritesBack Passes where
  accepted c hc := by
    obtain ⟨hd, hfields⟩ := readFor_body (tidy_of_reachable h) hc
    exact ⟨_, hd, hfields, conflict_draft_fieldsOf h hc⟩
  normal _ _ := fields_draft_of_readFor
  sent hbraces _ _ _ hfits hverb hpath htext htype :=
    puts_of_path h hbraces hfits hverb hpath (Body.read_body htext htype)
  again _ _ _ between hr := hr.handle between
  told c hc hfits later hl := by
    obtain ⟨hlater, row, hrow, halike⟩ :=
      hl.alike h hfits (Linked.country?_of_mem (tidy_of_reachable h).toLinked hc)
    refine ⟨row, hrow, halike, fun r hr hnow => ?_⟩
    rw [← halike.body_eq] at hr
    obtain ⟨next, -, hagain, htold⟩ := handle_puts hlater hfits hrow hr
    obtain ⟨hstatus, hcontent⟩ := htold hnow
    exact ⟨hstatus, _, hcontent, halike.trans hagain⟩

/-- The country that was created is sent back as it is told. -/
def sentBack : Request where
  method := "PUT"
  address := "/countries/v1/1"
  payload := .json (Detail.body ((initial.handle misspelt).2.registry.store.detail
    ⟨1, "Frence", "Europe", "FR", "FRA", 0, 0⟩))

/-- A country is created and sent back twice. -/
theorem writesBack_misspelt : (initial.handle misspelt).2.Reachable Quantity.Le ∧
    (((initial.handle misspelt).2.handle sentBack).2.handle sentBack).1.status = 200 := by
  have hservice := inService_initial.handle misspelt
  have hback := writesBack_of_reachable hservice.reached
  have hmem : ⟨1, "Frence", "Europe", "FR", "FRA", 0, 0⟩ ∈
      (initial.handle misspelt).2.registry.store.countries := by
    rw [store_misspelt]
    exact List.mem_singleton_self _
  have hputs := hback.sent hservice.plain.braces sentBack 1 _ (by decide) (by decide +kernel)
    (by decide +kernel) rfl (by decide +kernel)
  obtain ⟨_, -, -, htold⟩ := hback.told _ hmem (by decide) _ (.put sentBack .start hputs)
  exact ⟨hservice.reached,
    (htold sentBack (hback.again _ _ _ sentBack hputs) (hservice.handle sentBack).timely).1⟩

end Site

end Gazetteer.Http
