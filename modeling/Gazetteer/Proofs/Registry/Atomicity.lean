import Gazetteer.Proofs.Registry.Step

/-!
# What fails leaves no trace

An operation that is refused, or that finds nothing to work on, leaves the registry as it was: the
tables with all their rows, and the cache with its entries in their order.  For the tables this is
so because nothing is saved of refused work; for the cache, because a reading that is found there is
always of the kind that was asked for, so that only a lookup in vain can end without one.

* `FallsShort`: the answers in question;
* `Filed`, `filed_of_reachable`: readings are kept under keys of their kind;
* `perform_eq_self`: an operation that falls short changes nothing.
-/

namespace Gazetteer

open Number Store

/-- An answer that something is not there. -/
def Answer.isAbsence : Answer → Bool
  | .truth false | .detail none | .page none | .names none | .row none => true
  | _ => false

namespace Registry

/-- An answer that **falls short**: a failure, or that something is not there. -/
def FallsShort (x : Except Failure Answer) : Prop := ∀ a, x = .ok a → a.isAbsence

/-! ## Readings are of the right kind -/

/-- **Every reading in the cache is filed** under a query that some tables answer with it. -/
def Filed (r : Registry) : Prop := ∀ e ∈ r.cache.entries, ∃ (q : Query) (reading : Reading),
  q.Normal ∧ e.key = q.key ∧ e.value = some reading ∧ ∃ s, q.load s = .ok (some reading)

theorem filed_change {r r' : Registry} (h : r.Filed) (hc : r.Change r') : r'.Filed := by
  cases hc with
  | nothing => exact h
  | reading q hq =>
    intro e he
    rcases mem_read he with he | ⟨reading, hload, hkey, hvalue, -⟩
    · exact h e he
    · exact ⟨q, reading, hq, hkey, hvalue, r.store, hload⟩
  | forgetting family => exact fun e he => h e (Cache.mem_invalidate.mp he).1
  | writing store => exact fun e he => h e (Cache.mem_invalidate.mp he).1

theorem filed_perform {r : Registry} (h : r.Filed) (op : Operation) : (r.perform op).2.Filed := by
  by_cases hs : op.isService
  · by_cases ht : ∃ seconds, op = .advance seconds
    · obtain ⟨seconds, rfl⟩ := ht
      rw [perform_advance]
      exact h
    · exact filed_change h (change_perform r hs fun seconds ho => ht ⟨seconds, ho⟩)
  · obtain ⟨store, hp⟩ := perform_of_not_isService r (Bool.not_eq_true _ ▸ hs)
    rw [hp]
    exact h

theorem filed_of_reachable {r : Registry} (h : Reachable r) : r.Filed := by
  induction h with
  | empty capacity retains clock lifetimes =>
    intro e he
    cases he
  | perform op _ ih => exact filed_perform ih op
  | sweep _ ih => exact fun e he => ih e (Cache.mem_sweep.mp he).1

/-- Looking up in vain changes nothing. -/
theorem lookedUp_of_miss {r : Registry} {q : Query} (h : r.Filed)
    (hg : (r.cache.get r.clock q.key).1 = none) : r.lookedUp q = r.cache := by
  unfold lookedUp
  cases hf : r.cache.find? r.clock q.key with
  | none => rw [Cache.get_of_find?_eq_none hf]
  | some e =>
    rw [Cache.get_of_find?_eq_some hf] at hg
    obtain ⟨-, reading, -, -, hvalue, -⟩ := h e (Cache.find?_eq_some hf).1
    rw [hvalue] at hg
    cases hg

/-- **A reading that ends without one changes nothing**; otherwise it is of the right kind. -/
theorem read_eq_self_or {r : Registry} {q : Query} (h : r.Filed) (hq : q.Normal) :
    (r.read q).2 = r ∨ ∃ reading s, (r.read q).1 = .ok (some reading) ∧
      q.load s = .ok (some reading) := by
  have hr := readsTo r q
  generalize r.read q = x at hr
  cases hr with
  | hit reading hg =>
    obtain ⟨s, hl⟩ := of_hit (P := fun q reading => ∃ s, q.load s = .ok (some reading))
      (fun e he _ _ => h e he) hq hg
    exact Or.inr ⟨reading, s, rfl, hl⟩
  | refused fault hg hl => exact Or.inl (by rw [lookedUp_of_miss h hg])
  | absent hg hl => exact Or.inl (by rw [lookedUp_of_miss h hg])
  | kept reading c hg hl hc => exact Or.inr ⟨reading, r.store, rfl, hl⟩
  | uncached reading fault hg hl hc => exact Or.inl (by rw [lookedUp_of_miss h hg])

/-! ## Operations of the service -/

theorem fallsShort_error (failure : Failure) : FallsShort (.error failure) :=
  fun _ h => by cases h

theorem fallsShort_ok {a : Answer} : FallsShort (.ok a) ↔ a.isAbsence := by
  simp [FallsShort]

/-- An operation of the registry falls short if it fails or answers an absence. -/
theorem fallsShort_answer {f : α → Answer} {x : Except Fault α × Registry} :
    FallsShort (answer f x).1 ↔ ∀ a, x.1 = .ok a → (f a).isAbsence := by
  rcases x with ⟨fault | a, r⟩ <;> simp [answer, FallsShort, Except.map, Except.mapError]

theorem create_eq_self {r : Registry} {d : Country.Draft} (h : ∀ a, (r.create d).1 ≠ .ok a) :
    (r.create d).2 = r := by
  rcases r.create_cases d with ⟨now, row, t, -, -, hr⟩ | ⟨fault, hr⟩
  · rw [hr] at h
    exact absurd rfl (h _)
  · rw [hr]

theorem update_eq_self {r : Registry} {id : Int} {d : Country.Draft}
    (h : ∀ a, (r.update id d).1 ≠ .ok (some a)) : (r.update id d).2 = r := by
  rcases r.update_cases id d with ⟨now, row, t, -, -, hr⟩ | ⟨x, hr, -⟩
  · rw [hr] at h
    exact absurd rfl (h _)
  · rw [hr]

theorem delete_eq_self {r : Registry} {id : Int} (h : (r.delete id).1 ≠ .ok true) :
    (r.delete id).2 = r := by
  rcases r.delete_cases id with ⟨t, -, hr⟩ | ⟨x, hr, -⟩
  · rw [hr] at h
    exact absurd rfl h
  · rw [hr]

/-- A query of which a part is answered changes nothing if it falls short, provided that every
reading that the tables give has that part. -/
theorem read_eq_self {α : Type} {r : Registry} {q : Query} {f : Option α → Answer}
    {part : Reading → Option α} (hr : r.Filed) (hq : q.Normal)
    (hpart : ∀ s reading, q.load s = .ok (some reading) → (part reading).isSome)
    (hf : ∀ a, (f (some a)).isAbsence = false)
    (h : FallsShort (answer f ((r.read q).1.map (·.bind part), (r.read q).2)).1) :
    (r.read q).2 = r := by
  rcases read_eq_self_or hr hq with heq | ⟨reading, s, ha, hl⟩
  · exact heq
  · obtain ⟨a, hsome⟩ := Option.isSome_iff_exists.mp (hpart s reading hl)
    have habsent := fallsShort_answer.mp h (some a) (by simp [ha, hsome, Except.map])
    rw [hf a] at habsent
    cases habsent

theorem isSome_of_load_country {s : Store} {id : Int} {reading : Reading}
    (h : Query.load s (.country id) = .ok (some reading)) : reading.detail?.isSome := by
  obtain ⟨-, -, hl⟩ := bind_eq_ok_iff.mp h
  obtain ⟨d, -, rfl⟩ := Option.map_eq_some_iff.mp (Except.ok.inj hl)
  rfl

/-- An operation of the service that falls short changes nothing. -/
theorem perform_service_eq_self {r : Registry} (hr : r.Filed) {op : Operation} (hs : op.isService)
    (h : FallsShort (r.perform op).1) : (r.perform op).2 = r := by
  cases op with
  | advance seconds =>
    simp only [perform] at h ⊢
    cases hadvance : r.advance seconds with
    | error fault => rfl
    | ok r' =>
      rw [hadvance] at h
      cases fallsShort_ok.mp h
  | create data changes =>
    simp only [perform] at h ⊢
    cases hd : draft .creation data changes with
    | error failure => rfl
    | ok d =>
      rw [hd] at h
      exact create_eq_self fun a ha => by cases fallsShort_answer.mp h a ha
  | update id data changes =>
    simp only [perform] at h ⊢
    cases hd : draft .replacement data changes with
    | error failure => rfl
    | ok d =>
      rw [hd] at h
      exact update_eq_self fun a ha => by cases fallsShort_answer.mp h (some a) ha
  | delete id => exact delete_eq_self fun ha => by cases fallsShort_answer.mp h true ha
  | get id =>
    exact read_eq_self hr trivial (fun _ _ => isSome_of_load_country) (fun _ => rfl) h
  | search data =>
    simp only [perform] at h ⊢
    cases hq : request data with
    | error failure => rfl
    | ok request =>
      rw [hq] at h
      exact read_eq_self hr (normal_of_request hq) (fun _ _ hl => by cases hl; rfl) (fun _ => rfl) h
  | continents =>
    exact read_eq_self hr trivial (fun _ _ hl => by cases hl; rfl) (fun _ => rfl) h
  | contains id => rfl
  | isUsed mark value excluded => rfl
  | check data changes excluded =>
    simp only [perform]
    split
    · rfl
    · split <;> rfl
  | getRow id =>
    simp only [perform]
    split <;> rfl
  | searchRows data =>
    simp only [perform]
    split <;> rfl
  | invalidate family => cases fallsShort_ok.mp h
  | lifetimes | dump => rfl
  | createRow | replaceRow | removeRow | addCode => cases hs

/-! ## Work on the tables -/

section
variable {α : Type} {P : α → Prop} (r : Registry)

theorem conduct_eq_or {w : Instant → Work α} (hw : ∀ now, SavesOnly P (w now)) :
    (r.conduct w).2 = r.store ∨ ∃ a, (r.conduct w).1 = .ok a ∧ P a := by
  unfold conduct
  cases r.now with
  | error fault => exact Or.inl rfl
  | ok now =>
    rcases hw now r.store with hs | ⟨a, ha, hp⟩
    · exact Or.inl hs
    · exact Or.inr ⟨a, by simp [ha, Except.mapError], hp⟩

theorem conductOn_eq_or {P : Option α → Prop} {w : Instant → Work (Option α)} (id : Int)
    (hw : ∀ now, SavesOnly P (w now)) :
    (r.conductOn id w).2 = r.store ∨ ∃ a, (r.conductOn id w).1 = .ok a ∧ P a := by
  unfold conductOn
  split
  · exact Or.inl rfl
  · exact Or.inl rfl
  · exact conduct_eq_or r hw

end

/-- After a refusal the tables are those that were there before. -/
theorem with_store_eq_self {α ε : Type} {P : α → Prop} {r : Registry} {x : Except ε α × Store}
    {fault : ε} {store : Store} (h : x.2 = r.store ∨ ∃ a, x.1 = .ok a ∧ P a)
    (hx : x = (.error fault, store)) : { r with store } = r := by
  subst hx
  rcases h with rfl | ⟨a, ha, -⟩
  · rfl
  · cases ha

/-- Work behind the registry's back that falls short saves nothing. -/
theorem perform_work_eq_self {r : Registry} {op : Operation} (hs : op.isService = false)
    (h : FallsShort (r.perform op).1) : (r.perform op).2 = r := by
  cases op with
  | createRow columns commits =>
    have hsaves := conduct_eq_or r fun now => savesOnly_create now columns commits
    simp only [perform] at h ⊢
    split at h
    · next fault store hc => exact with_store_eq_self hsaves hc
    · cases fallsShort_ok.mp h
  | replaceRow id columns commits =>
    have hsaves := conductOn_eq_or r id fun now => savesOnly_replace now id columns commits
    simp only [perform] at h ⊢
    split at h
    · next fault store hc => exact with_store_eq_self hsaves hc
    · next row store hc =>
      rw [hc] at hsaves
      rcases hsaves with rfl | ⟨a, ha, hsome⟩
      · rfl
      · cases ha
        obtain ⟨x, rfl⟩ := Option.isSome_iff_exists.mp hsome
        cases fallsShort_ok.mp h
  | removeRow id commits =>
    have hsaves := savesOnly_remove id commits r.store
    simp only [perform] at h ⊢
    split at h
    · next fault store hc => exact with_store_eq_self hsaves hc
    · cases fallsShort_ok.mp h
  | addCode countryId code isPrimary =>
    have hsaves := conduct_eq_or r fun now => savesOnly_addCode now countryId code isPrimary
    simp only [perform] at h ⊢
    split at h
    · next fault store hc => exact with_store_eq_self hsaves hc
    · cases fallsShort_ok.mp h
  | _ => cases hs

/-- **An operation that falls short changes nothing**, neither in the tables nor in the cache. -/
theorem perform_eq_self {r : Registry} (hr : Reachable r) {op : Operation}
    (h : FallsShort (r.perform op).1) : (r.perform op).2 = r := by
  cases hs : op.isService with
  | true => exact perform_service_eq_self (filed_of_reachable hr) hs h
  | false => exact perform_work_eq_self hs h

/-- A registry with one country. -/
def withFrance : Registry :=
  (perform ⟨.empty, .empty 1 true, 0, ⟨60, 60⟩⟩
    (.createRow ⟨some "France", some "Europe", some "FR", some "FRA", [some "33"]⟩ true)).2

/-- A second country whose second dialling code is absent: it fails when its row and its first code
have been put in. -/
def brokenRow : Operation :=
  .createRow ⟨some "Spain", some "Europe", some "ES", some "ESP", [some "34", none]⟩ true

theorem perform_brokenRow :
    Reachable withFrance ∧ withFrance.store.countries.length = 1 ∧
      FallsShort (withFrance.perform brokenRow).1 ∧
      (withFrance.perform brokenRow).2 = withFrance := by
  have hr : Reachable withFrance := .perform _ (.empty 1 true 0 ⟨60, 60⟩)
  have hanswer : (withFrance.perform brokenRow).1 =
      .error (.faulty (.refused (.absent .code))) := rfl
  have hf : FallsShort (withFrance.perform brokenRow).1 := by
    rw [hanswer]
    intro a ha
    cases ha
  exact ⟨hr, rfl, hf, perform_eq_self hr hf⟩

end Registry

end Gazetteer
