import Gazetteer.Proofs.Registry.Accounting
import Gazetteer.Proofs.Registry.Staleness
import Gazetteer.Proofs.Registry.Tables
import Gazetteer.Proofs.Store.Frame
import Gazetteer.Proofs.Store.Paging

/-!
# What was written is read

A write answers with the country that it has written.  Whoever asks for that country afterwards, or
for a page on which it is, is told the same, whether from the tables or from the cache, until the
country is written once more.  For a write forgets all readings, those that are kept from then on
were read from tables that show the country as it was written, and a write to another country leaves
its row and its dialling codes alone.

* `OnlyOn.detail?_of_ne`, `Linked.detail?_of_mem_page`: what the tables show;
* `writtenOn_perform`: an operation writes to one country at most;
* `Echoes`, `Keeps`, `keeps_after`: readings that agree with what was written, and a registry in
  which all do; `keeps_afterAll`: and so it stays;
* `Tells`, `tells_written`: what is told after a write; `get_unsummable`: when nothing is.
-/

namespace Gazetteer

open Number

namespace Store

variable {s t : Store} {now : Instant} {id n : Int}

/-! ## What the tables show -/

theorem OnlyOn.country?_of_ne (h : OnlyOn n s t) (hne : id ≠ n) :
    t.country? id = s.country? id := by
  have hfind : ∀ u : Store, u.country? id = (u.countries.filter (·.id ≠ n)).find? (·.id = id) := by
    intro u
    rw [List.find?_filter, country?]
    refine congrArg (List.find? · u.countries) (funext fun c => ?_)
    by_cases hc : c.id = id
    · simp [hc, hne]
    · simp [hc]
  rw [hfind, hfind, h.countries]

theorem OnlyOn.codesOf_of_ne (h : OnlyOn n s t) (hne : id ≠ n) : t.codesOf id = s.codesOf id := by
  have hfilter : ∀ u : Store, u.codesOf id =
      (u.codes.filter (·.countryId ≠ n)).filter (·.countryId = id) := by
    intro u
    rw [List.filter_filter, codesOf]
    refine List.filter_congr fun k _ => ?_
    by_cases hk : k.countryId = id
    · simp [hk, hne]
    · simp [hk]
  rw [hfilter, hfilter, h.codes]

/-- **A write to another country** leaves a country as it is. -/
theorem OnlyOn.detail?_of_ne (h : OnlyOn n s t) (hne : id ≠ n) : t.detail? id = s.detail? id := by
  unfold detail?
  rw [h.country?_of_ne hne]
  refine Option.map_congr fun c hc => ?_
  obtain rfl := (mem_of_country?_eq_some hc).2
  rw [detail, detail, h.codesOf_of_ne hne]

/-- **One more dialling code** is a write to its country. -/
theorem Linked.onlyOn_addCode (h : s.Linked) {code : Option String} {isPrimary : Bool} {k : CodeRow}
    (hs : s.addCode now (some n) code isPrimary = .ok (k, t)) : OnlyOn n s t := by
  have hlinked : t.Linked := (Written.coded hs).linked h
  have hcountry : k.countryId = n := by
    obtain ⟨-, -, hs⟩ := bind_eq_ok_iff.mp hs
    obtain ⟨code, -, hs⟩ := bind_eq_ok_iff.mp hs
    cases hc : s.country? n with
    | none => simp [hc, error_bind] at hs
    | some c =>
      simp only [hc, Option.isNone_some, Bool.false_eq_true, if_false] at hs
      cases hs
      rfl
  obtain ⟨rfl, -⟩ := addCode_eq_ok hs
  refine ⟨rfl, ?_, hlinked.owned⟩
  rw [List.filter_append, List.filter_cons_of_neg (by simp [hcountry]), List.filter_nil,
    List.append_nil]

/-- **On a page a country is shown as it is shown alone.** -/
theorem Linked.detail?_of_mem_page (h : s.Linked) {request : Search.Request}
    {item : Country.Detail} (hi : item ∈ (s.page request).items) :
    s.detail? item.id = some item := by
  obtain ⟨c, hc, rfl⟩ := List.mem_map.mp hi
  have hresult : c ∈ s.result request := List.mem_of_mem_drop (List.mem_of_mem_take hc)
  have hrow : s.country? c.id = some c := h.country?_of_mem (mem_result.mp hresult).1
  change s.detail? c.id = _
  rw [detail?, hrow]
  rfl

end Store

/-! ## Writes to a country -/

/-- **An operation that writes to a country**: one that gives new values to it, deletes it, or adds
a dialling code to it.  Work that is not saved is none. -/
def Operation.Rewrites (id : Int) : Operation → Prop
  | .update n _ _ | .delete n => n = id
  | .replaceRow n _ commits | .removeRow n commits => n = id ∧ commits
  | .addCode n _ _ => n = some id
  | _ => False

namespace Registry

open Store

variable {r : Registry} {id : Int} {op : Operation} {e : Event} {es : List Event}

/-- **An event that writes to a country**, and does not fall short. -/
def Rewrites (r : Registry) (id : Int) : Event → Prop
  | .operation op => op.Rewrites id ∧ ¬FallsShort (r.perform op).1
  | .sweep => False

/-- **Nothing is written to a country** in a row of events. -/
def Untouched (id : Int) (r : Registry) : List Event → Prop
  | [] => True
  | e :: es => ¬r.Rewrites id e ∧ Untouched id (r.after e) es

/-- Tables that were written to on one country at most: on one that there was not, or one of which
something holds. -/
def WrittenOn (P : Int → Prop) (s t : Store) : Prop :=
  t = s ∨ ∃ n, OnlyOn n s t ∧ (P n ∨ ∀ c ∈ s.countries, c.id ≠ n)

theorem writtenOn_create {P : Int → Prop} {s t : Store} {now : Instant} {c : Columns}
    {row : CountryRow} (h : s.Linked) (hs : s.create now c = .ok (row, t)) : WrittenOn P s t := by
  obtain ⟨f, rfl⟩ := exists_fields_of_create hs
  exact Or.inr ⟨row.id, h.onlyOn_create hs, Or.inr (id_ne_of_create hs)⟩

theorem writtenOn_replace {P : Int → Prop} {s t : Store} {now : Instant} {c : Columns}
    {row : CountryRow} (h : s.Linked) (hs : s.replace now id c = .ok (some (row, t))) (hp : P id) :
    WrittenOn P s t := by
  obtain ⟨f, rfl⟩ := exists_fields_of_replace hs
  exact Or.inr ⟨id, h.onlyOn_replace hs, Or.inl hp⟩

/-- **An operation writes to one country at most**: to the one it is for, or to a new one. -/
theorem writtenOn_perform (h : r.store.Linked) (op : Operation) :
    WrittenOn (op.Rewrites ·) r.store (r.perform op).2.store := by
  have hself : WrittenOn (op.Rewrites ·) r.store r.store := Or.inl rfl
  cases op with
  | create data changes =>
    simp only [perform]
    cases draft .creation data changes with
    | error failure => exact hself
    | ok d =>
      rcases r.create_cases d with ⟨now, row, t, -, hs, hr⟩ | ⟨fault, hr⟩
      · simp only [answer, hr]
        exact writtenOn_create h hs
      · simp only [answer, hr]
        exact hself
  | update id data changes =>
    simp only [perform]
    cases draft .replacement data changes with
    | error failure => exact hself
    | ok d =>
      rcases r.update_cases id d with ⟨now, row, t, -, hs, hr⟩ | ⟨x, hr, -⟩
      · simp only [answer, hr]
        exact writtenOn_replace h hs rfl
      · simp only [answer, hr]
        exact hself
  | delete id =>
    rcases r.delete_cases id with ⟨t, hs, hr⟩ | ⟨x, hr, -⟩
    · simp only [perform, answer, hr]
      exact Or.inr ⟨id, h.onlyOn_remove hs, Or.inl rfl⟩
    · simp only [perform, answer, hr]
      exact hself
  | createRow columns commits =>
    rw [store_createRow]
    exact conduct_snd hself fun now =>
      conduct_create_snd hself fun _ _ hs => writtenOn_create h hs
  | replaceRow id columns commits =>
    rw [store_replaceRow]
    refine conductOn_snd hself fun now => ?_
    cases commits with
    | false =>
      rw [conduct_replace]
      split <;> exact hself
    | true => exact conduct_replace_snd hself fun _ _ hs => writtenOn_replace h hs ⟨rfl, rfl⟩
  | removeRow id commits =>
    rw [store_removeRow]
    exact conduct_remove_snd hself fun _ hcommits hs =>
      Or.inr ⟨id, h.onlyOn_remove hs, Or.inl ⟨rfl, hcommits⟩⟩
  | addCode countryId code isPrimary =>
    rw [store_addCode]
    refine conduct_snd hself fun now => conduct_addCode_snd hself fun k _ hs => ?_
    cases countryId with
    | none => cases hs
    | some n => exact Or.inr ⟨n, h.onlyOn_addCode hs, Or.inl rfl⟩
  | advance | get | search | continents | contains | isUsed | check | invalidate | lifetimes
    | getRow | searchRows | dump => exact Or.inl (r.store_of_not_isWrite rfl rfl)

/-! ## Readings that agree with what was written -/

variable {d : Country.Detail}

/-- **A reading agrees with a country as it was written**: whether it is of that country alone, or
a page on which the country is. -/
structure Echoes (d : Country.Detail) (q : Query) (reading : Reading) : Prop where
  country : q = .country d.id → reading = .country d
  page : ∀ request, q = .search request →
    ∃ p, reading = .page p ∧ ∀ item ∈ p.items, item.id = d.id → item = d

/-- **What the tables answer agrees with what they show.** -/
theorem echoes_of_load {s : Store} {q : Query} {reading : Reading} (h : s.Linked)
    (hd : s.detail? d.id = some d) (hl : q.load s = .ok (some reading)) : Echoes d q reading := by
  cases q with
  | country n =>
    obtain ⟨_, -, hl⟩ := bind_eq_ok_iff.mp hl
    obtain ⟨shown, hshown, rfl⟩ := Option.map_eq_some_iff.mp (Except.ok.inj hl)
    refine ⟨?_, nofun⟩
    rintro ⟨rfl⟩
    rw [Option.some.inj (hshown.symm.trans hd)]
  | search request =>
    cases hl
    refine ⟨nofun, ?_⟩
    rintro _ ⟨rfl⟩
    refine ⟨_, rfl, fun item hi hid => ?_⟩
    have hshown := h.detail?_of_mem_page hi
    rw [hid] at hshown
    exact Option.some.inj (hshown.symm.trans hd)
  | continents =>
    cases hl
    exact ⟨nofun, nofun⟩

/-- **The tables show a country as it was written, and so does every live reading.** -/
structure Keeps (d : Country.Detail) (r : Registry) : Prop where
  reachable : Reachable r
  shown : r.store.detail? d.id = some d
  echoes : ∀ e ∈ r.cache.entries, e.isLive r.clock → ∃ (q : Query) (reading : Reading),
    q.Normal ∧ e.key = q.key ∧ e.value = some reading ∧ Echoes d q reading

theorem reachable_after (h : Reachable r) (e : Event) : Reachable (r.after e) := by
  cases e with
  | operation op => exact .perform op h
  | sweep => exact .sweep h

/-- The tables after an event that does not write to the country. -/
theorem shown_after (h : Reachable r) (hd : r.store.detail? d.id = some d)
    (hn : ¬r.Rewrites d.id e) : (r.after e).store.detail? d.id = some d := by
  cases e with
  | sweep => exact hd
  | operation op =>
    by_cases hshort : FallsShort (r.perform op).1
    · rw [after, perform_eq_self h hshort]
      exact hd
    rcases writtenOn_perform h.linked op with hsame | ⟨n, honly, hwhich⟩
    · rw [after, hsame]
      exact hd
    · have hne : d.id ≠ n := by
        rintro rfl
        rcases hwhich with hrewrites | hnew
        · exact hn ⟨hrewrites, hshort⟩
        · obtain ⟨c, hc, -⟩ := Option.map_eq_some_iff.mp hd
          exact hnew c (mem_of_country?_eq_some hc).1 (mem_of_country?_eq_some hc).2
      rw [after, honly.detail?_of_ne hne]
      exact hd

/-- **One event** that does not write to the country keeps it that way, -/
theorem keeps_after (h : r.Keeps d) (hn : ¬r.Rewrites d.id e)
    (ht : r.clock.Le (e.clockAfter r.clock)) : (r.after e).Keeps d := by
  refine ⟨reachable_after h.reachable e, shown_after h.reachable h.shown hn, fun entry he hl => ?_⟩
  rcases mem_after he with hold | ⟨q, reading, hq, hload, hkey, hvalue, -, -⟩
  · rw [(clock_after r e).1] at hl
    exact h.echoes entry hold (Cache.isLive_of_le ht hl)
  · exact ⟨q, reading, hq, hkey, hvalue, echoes_of_load h.reachable.linked h.shown hload⟩

/-- **and so does every row of events.** -/
theorem keeps_afterAll (h : r.Keeps d) (hn : r.Untouched d.id es) (hf : Forward r.clock es) :
    (r.afterAll es).Keeps d := by
  induction es generalizing r with
  | nil => exact h
  | cons e es ih =>
    obtain ⟨hle, hrest⟩ := hf
    rw [← (clock_after r e).1] at hrest
    exact ih (keeps_after h hn.1 hle) hn.2 hrest

/-! ## What is told -/

/-- **What a reading is told as**: something that agrees with what was written, unless it has to be
kept and the end of its lifetime cannot be told. -/
theorem read_of_keeps {q : Query} {reading : Reading} (h : r.Keeps d) (hq : q.Normal)
    (hl : q.load r.store = .ok (some reading)) :
    (∃ reading, (r.read q).1 = .ok (some reading) ∧ Echoes d q reading) ∨
      ∃ fault, (r.lifetime q).expiry r.clock = .error fault ∧
        (r.read q).1 = .error (.uncached fault) := by
  have hloaded : ∀ reading, q.load r.store = .ok (some reading) → Echoes d q reading :=
    fun _ => echoes_of_load h.reachable.linked h.shown
  have hr := readsTo r q
  generalize r.read q = x at hr
  cases hr with
  | hit reading hg => exact Or.inl ⟨reading, rfl, of_hit (fun e he hl _ => h.echoes e he hl) hq hg⟩
  | refused fault hg hl' => rw [hl] at hl'; cases hl'
  | absent hg hl' => rw [hl] at hl'; cases hl'
  | kept reading c hg hl' hc => exact Or.inl ⟨reading, rfl, hloaded reading hl'⟩
  | uncached reading fault hg hl' hc =>
    exact Or.inr ⟨fault, Cache.expiry_of_setIfCurrent hc, rfl⟩

/-- **What is told of a country that was written.** -/
structure Tells (d : Country.Detail) (r : Registry) : Prop where
  /-- The tables tell it, and so does every page that is read from them. -/
  afresh : ∃ row, (r.perform (.getRow d.id)).1 = .ok (.row (some (row, d)))
  pages : ∀ request, ∀ item ∈ (r.store.page request).items, item.id = d.id → item = d
  /-- Whoever asks for it is told it, unless it has to be kept and the end of its lifetime cannot be
  told, -/
  get : (r.perform (.get d.id)).1 = .ok (.detail (some d)) ∨
    ∃ fault, (r.lifetime (.country d.id)).expiry r.clock = .error fault ∧
      (r.perform (.get d.id)).1 = .error (.faulty (.uncached fault))
  /-- and so is whoever asks for a page on which it is. -/
  search : ∀ data request, Registry.request data = .ok request →
    (∃ p, (r.perform (.search data)).1 = .ok (.page (some p)) ∧
      ∀ item ∈ p.items, item.id = d.id → item = d) ∨
    ∃ fault, (r.lifetime (.search request)).expiry r.clock = .error fault ∧
      (r.perform (.search data)).1 = .error (.faulty (.uncached fault))

theorem Keeps.tells (h : r.Keeps d) (hfits : fits d.id) : r.Tells d where
  afresh := by
    obtain ⟨row, hrow, hd⟩ := Option.map_eq_some_iff.mp h.shown
    refine ⟨row, ?_⟩
    simp only [perform, checkId_of_fits hfits, hrow, Option.map_some, hd]
  pages request item hi hid := by
    have hshown := h.reachable.linked.detail?_of_mem_page hi
    rw [hid] at hshown
    exact Option.some.inj (hshown.symm.trans h.shown)
  get := by
    have hload : (Query.country d.id).load r.store = .ok (some (.country d)) := by
      rw [Query.load, checkId_of_fits hfits, ok_bind, h.shown]
      rfl
    have hnormal : (Query.country d.id).Normal := trivial
    rcases read_of_keeps h hnormal hload with ⟨reading, hr, hecho⟩ | ⟨fault, hx, hr⟩
    · obtain rfl := hecho.country rfl
      refine Or.inl ?_
      simp only [perform, answer, country, hr]
      rfl
    · refine Or.inr ⟨fault, hx, ?_⟩
      simp only [perform, answer, country, hr]
      rfl
  search data request hq := by
    have hload : (Query.search request).load r.store = .ok (some (.page (r.store.page request))) :=
      rfl
    have hnormal : (Query.search request).Normal := normal_of_request hq
    rcases read_of_keeps h hnormal hload with ⟨reading, hr, hecho⟩ | ⟨fault, hx, hr⟩
    · obtain ⟨p, rfl, hp⟩ := hecho.page request rfl
      refine Or.inl ⟨p, ?_, hp⟩
      simp only [perform, hq, answer, search, hr]
      rfl
    · refine Or.inr ⟨fault, hx, ?_⟩
      simp only [perform, hq, answer, search, hr]
      rfl

/-! ## After a write -/

/-- **What a write answers is what the tables show after it.** -/
theorem exists_wrote_of_answer (hw : op.isWrite)
    (ha : (r.perform op).1 = .ok (.detail (some d))) :
    ∃ t, (r.perform op).2 = r.wrote t ∧ t.detail? d.id = some d := by
  cases op with
  | create data changes =>
    simp only [perform] at ha ⊢
    cases hd : draft .creation data changes with
    | error failure => rw [hd] at ha; cases ha
    | ok c =>
      rw [hd] at ha
      rcases r.create_cases c with ⟨_, row, t, -, hs, hr⟩ | ⟨fault, hr⟩
      · simp only [answer, hr] at ha ⊢
        cases ha
        exact ⟨t, rfl, by rw [detail?, show (t.detail row).id = row.id from rfl,
          country?_of_create hs, Option.map_some]⟩
      · simp only [answer, hr] at ha
        cases ha
  | update id data changes =>
    simp only [perform] at ha ⊢
    cases hd : draft .replacement data changes with
    | error failure => rw [hd] at ha; cases ha
    | ok c =>
      rw [hd] at ha
      rcases r.update_cases id c with ⟨_, row, t, -, hs, hr⟩ | ⟨x, hr, hx⟩
      · simp only [answer, hr] at ha ⊢
        cases ha
        have hrow := country?_of_replace hs
        refine ⟨t, rfl, ?_⟩
        rw [detail?, show (t.detail row).id = id from (mem_of_country?_eq_some hrow).2, hrow,
          Option.map_some]
      · simp only [answer, hr] at ha
        cases x with
        | error fault => cases ha
        | ok o =>
          cases ha
          exact absurd rfl (hx d)
  | delete id =>
    simp only [perform, answer] at ha
    cases hx : (r.delete id).1 with
    | error fault => rw [hx] at ha; cases ha
    | ok b => rw [hx] at ha; cases ha
  | _ => cases hw

/-- **After a write every live reading agrees with it**, for there is none. -/
theorem keeps_written (hr : Reachable r) (hw : op.isWrite)
    (ha : (r.perform op).1 = .ok (.detail (some d))) : (r.perform op).2.Keeps d := by
  obtain ⟨t, ht, hd⟩ := exists_wrote_of_answer hw ha
  have hreachable : Reachable (r.perform op).2 := .perform op hr
  rw [ht] at hreachable ⊢
  refine ⟨hreachable, hd, fun entry he hl => ?_⟩
  obtain ⟨hold, hspared⟩ := Cache.mem_invalidate.mp he
  obtain ⟨q, -, -, hkey, -⟩ := filed_of_reachable hr entry hold
  exact absurd ⟨hkey ▸ q.isUnder_key, hl⟩ hspared

/-- **What was written is read.**  A write answers with a country.  As long as nothing is written to
that country once more, it is told as it was written: by the tables, by their pages, and to whoever
asks, whatever the cache holds. -/
theorem tells_written (hr : Reachable r) (hw : op.isWrite)
    (ha : (r.perform op).1 = .ok (.detail (some d))) (hfits : fits d.id)
    (hf : Forward (r.perform op).2.clock es) (hn : (r.perform op).2.Untouched d.id es) :
    ((r.perform op).2.afterAll es).Tells d :=
  (keeps_afterAll (keeps_written hr hw ha) hn hf).tells hfits

/-- A country as a client sends it. -/
def sent (name code iso2 iso3 : String) : Json :=
  .object [("name", .text name), ("continent", .text "Europe"), ("countryCode", .text code),
    ("iso2", .text iso2), ("iso3", .text iso3)]

/-- The country that an answer shows. -/
def shown : Except Failure Answer → Option Country.Detail
  | .ok (.detail d) => d
  | _ => none

theorem eq_of_shown {x : Except Failure Answer} (h : shown x = some d) :
    x = .ok (.detail (some d)) := by
  unfold shown at h
  split at h
  · rw [h]
  · cases h

/-- A registry that keeps countries for a minute, with a country that has one dialling code more
than it was created with. -/
def withSpain : Registry :=
  (keeping 60).afterAll [.operation (.create (sent "Spain" "34" "ES" "ESP") {}),
    .operation (.addCode (some 1) (some "35") true)]

/-- New values for that country. -/
def rename : Operation := .update 1 (sent "Portugal" "351" "PT" "PRT") {}

/-- That country with its new values. -/
def portugal : Country.Detail :=
  ⟨1, "Portugal", "Europe", some "351", [⟨1, "351", true⟩], "PT", "PRT",
    Instant.moment 0, Instant.moment 0⟩

/-- Half a minute, a reading, another country and its end, and another half of a minute. -/
def elsewhere : List Event :=
  [.operation (.advance 30), .operation (.get 1),
    .operation (.create (sent "Italy" "39" "IT" "ITA") {}), .operation (.search (.object [])),
    .operation (.delete 2), .operation (.advance 30)]

theorem tells_portugal :
    (withSpain.perform rename).1 = .ok (.detail (some portugal)) ∧
    ((withSpain.perform rename).2.afterAll elsewhere).Tells portugal := by
  have hr : Reachable withSpain := .perform _ (.perform _ (.empty 100 true 0 ⟨60, 600⟩))
  have ha : (withSpain.perform rename).1 = .ok (.detail (some portugal)) :=
    eq_of_shown (by decide +kernel)
  have hf : Forward (withSpain.perform rename).2.clock elsewhere := by decide +kernel
  have hn : (withSpain.perform rename).2.Untouched portugal.id elsewhere := by
    simp [Untouched, elsewhere, Rewrites, Operation.Rewrites, portugal]
  exact ⟨ha, tells_written hr rfl ha rfl hf hn⟩

/-- The fault that an answer reports. -/
def reported : Except Failure Answer → Option Fault
  | .error (.faulty fault) => some fault
  | _ => none

theorem eq_of_reported {x : Except Failure Answer} {fault : Fault} (h : reported x = some fault) :
    x = .error (.faulty fault) := by
  unfold reported at h
  split at h
  · rw [Option.some.inj h]
  · cases h

/-- Half a second after zero, when the clock shows a double, a registry that keeps countries for
longer than any double can tell. -/
def lasting : Registry :=
  (keeping (60 * 10 ^ 400)).after (.operation (.advance (.real (.ofQuotient false 1 2))))

/-- **A country that was written may not be told at all**: its reading cannot be kept, because the
end of its lifetime cannot be told. -/
theorem get_unsummable :
    let creation : Operation := .create (sent "France" "33" "FR" "FRA") {}
    Reachable lasting ∧ ∃ d, (lasting.perform creation).1 = .ok (.detail (some d)) ∧ d.id = 1 ∧
      ((lasting.perform creation).2.perform (.get 1)).1 =
        .error (.faulty (.uncached (.timing .unsummable))) := by
  intro creation
  have hr : Reachable lasting := .perform _ (.empty 100 true 0 ⟨60 * 10 ^ 400, 600⟩)
  have hid : (shown (lasting.perform creation).1).map (·.id) = some 1 := by decide +kernel
  obtain ⟨d, hd, hone⟩ := Option.map_eq_some_iff.mp hid
  exact ⟨hr, d, eq_of_shown hd, hone, eq_of_reported (by decide +kernel)⟩

end Registry

end Gazetteer
