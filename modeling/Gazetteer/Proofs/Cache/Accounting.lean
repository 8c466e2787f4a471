import Gazetteer.Proofs.Cache.Record
import Mathlib.Algebra.BigOperators.Ring.Finset
import Mathlib.Algebra.Order.BigOperators.Group.List
import Mathlib.Algebra.Order.Ring.Nat

/-!
# The accounts of a cache

The entries of a cache have keys of their own, and together they cost no more than the capacity,
dead entries included.  Beside a record the accounts can be checked: a live entry costs what was
said when its value was stored, and nothing else is counted.

* `Solvent`: distinct keys and no more cost than the capacity; every operation keeps it
  (`solvent_get`, `solvent_set`, `solvent_invalidate`, `solvent_sweep`, `solvent_clear`), and so
  it is kept in every run (`Course.solvent`);
* `Accounted`: live entries cost what the record says, `kept_accounted`;
* `set_eq_error_iff`: when a value cannot be stored;
* `Balanced`, `balanced_after`: the accounts after a run.
-/

namespace Gazetteer.Cache

open Number

variable {α : Type}

/-! ## Costs -/

section Totals

variable {es es' : List (CacheEntry α)} {e : CacheEntry α} {key : String}

theorem total_eq_sum (es : List (CacheEntry α)) : total es = (es.map (·.cost)).sum := by
  induction es with
  | nil => rfl
  | cons e es ih => simpa [total] using ih

theorem total_append : total (es ++ es') = total es + total es' := by
  simp [total_eq_sum]

theorem total_perm (h : es.Perm es') : total es = total es' := by
  rw [total_eq_sum, total_eq_sum]
  exact (h.map _).sum_eq

theorem total_le_of_sublist (h : es.Sublist es') : total es ≤ total es' := by
  rw [total_eq_sum, total_eq_sum]
  exact (h.map _).sum_le_sum fun _ _ => Nat.zero_le _

theorem cost_le_total (h : e ∈ es) : e.cost ≤ total es := by
  rw [total_eq_sum]
  exact List.single_le_sum (fun _ _ => Nat.zero_le _) _ (List.mem_map_of_mem h)

theorem without_eq_self (h : key ∉ es.map (·.key)) : without key es = es := by
  refine List.filter_eq_self.mpr fun d hd => ?_
  have hne : d.key ≠ key := fun hk => h (hk ▸ List.mem_map_of_mem hd)
  simpa using hne

/-- Moving an entry to the end is a change of order only, if its key is its own. -/
theorem without_append_perm (h : (es.map (·.key)).Nodup) (he : e ∈ es) :
    (without e.key es ++ [e]).Perm es := by
  induction es with
  | nil => cases he
  | cons d es ih =>
    obtain ⟨hd, hes⟩ : d.key ∉ es.map (·.key) ∧ (es.map (·.key)).Nodup := List.nodup_cons.mp h
    rcases List.mem_cons.mp he with rfl | he
    · have hrest : without e.key (e :: es) = es :=
        (List.filter_cons_of_neg (by simp)).trans (without_eq_self hd)
      rw [hrest]
      exact List.perm_append_singleton e es
    · have hne : d.key ≠ e.key := fun hk => hd (hk ▸ List.mem_map_of_mem he)
      have hrest : without e.key (d :: es) = d :: without e.key es :=
        List.filter_cons_of_pos (by simpa using hne)
      rw [hrest]
      exact (ih hes he).cons d

end Totals

/-! ## Solvent caches -/

/-- **A cache whose entries have keys of their own and cost no more than the capacity.** -/
structure Solvent (c : Cache α) : Prop where
  keys : (c.entries.map (·.key)).Nodup
  total : total c.entries ≤ c.capacity

section Solvent

variable {c c' : Cache α} {now : Quantity} {key : String}

theorem solvent_empty (capacity : Nat) (retains : Bool) :
    Solvent (.empty capacity retains : Cache α) :=
  ⟨List.nodup_nil, Nat.zero_le _⟩

/-- Fewer entries are not dearer. -/
theorem Solvent.of_sublist (h : c.Solvent) (hs : c'.entries.Sublist c.entries)
    (hc : c'.capacity = c.capacity) : c'.Solvent :=
  ⟨h.keys.sublist (hs.map _), hc ▸ (total_le_of_sublist hs).trans h.total⟩

theorem solvent_get (h : c.Solvent) : (c.get now key).2.Solvent := by
  cases hf : c.find? now key with
  | none => rwa [get_of_find?_eq_none hf]
  | some e =>
    obtain ⟨he, -, rfl⟩ := find?_eq_some hf
    rw [get_of_find?_eq_some hf]
    have hperm := without_append_perm h.keys he
    exact ⟨(hperm.map _).nodup_iff.mpr h.keys, (total_perm hperm).trans_le h.total⟩

theorem solvent_place (h : c.Solvent) {e : CacheEntry α} (he : e.cost ≤ c.capacity) :
    (c.place now e).Solvent := by
  have hsuffix := makeRoom_suffix c.capacity e.cost (without e.key (c.live now))
  refine ⟨?_, ?_⟩
  · have hlive : ((without e.key (c.live now)).map (·.key)).Nodup :=
      h.keys.sublist ((List.filter_sublist.trans List.filter_sublist).map _)
    have hrest := hlive.sublist (hsuffix.sublist.map _)
    unfold place
    rw [List.map_append, List.nodup_append]
    refine ⟨hrest, by simp, ?_⟩
    intro k hk l hl
    obtain ⟨d, hd, rfl⟩ := List.mem_map.mp hk
    obtain rfl : l = e.key := by simpa using hl
    exact (mem_without.mp (hsuffix.subset hd)).2
  · have hroom := total_makeRoom_le he (without e.key (c.live now))
    have hself : Cache.total [e] = e.cost := by simp [Cache.total]
    unfold place
    rwa [total_append, hself]

theorem solvent_set (h : c.Solvent) {value : Option α} {lifetime : Lifetime} {cost : Cost}
    {kept : Bool} (hs : c.set now key value lifetime cost = .ok (kept, c')) : c'.Solvent := by
  unfold set at hs
  split at hs
  · cases hs
    exact h
  · cases cost with
    | improper kind => cases hs
    | units n =>
      rcases store_cases hs with ⟨-, rfl⟩ | ⟨expiry, hn, -, ⟨-, rfl⟩ | ⟨-, -, rfl⟩⟩
      · exact h.of_sublist List.filter_sublist rfl
      · exact h.of_sublist List.filter_sublist rfl
      · exact solvent_place h (by simpa using hn)

theorem solvent_invalidate (h : c.Solvent) (family : String) :
    (c.invalidate now family).2.Solvent :=
  h.of_sublist List.filter_sublist rfl

theorem solvent_sweep (h : c.Solvent) : (c.sweep now).Solvent :=
  h.of_sublist List.filter_sublist rfl

theorem solvent_clear (c : Cache α) : c.clear.Solvent := ⟨List.nodup_nil, Nat.zero_le _⟩

theorem solvent_put {w : World α} (h : w.cache.Solvent) (value : Option α) (lifetime : Lifetime)
    (cost : Cost) : (w.put key value lifetime cost).cache.Solvent := by
  unfold World.put
  cases hs : w.cache.set w.clock key value lifetime cost with
  | error fault => exact h
  | ok r => exact solvent_set h hs

/-- **A cache stays solvent**, whatever happens. -/
theorem Course.solvent {w₀ w : World α} {h : List (Note α)} {us : List String}
    (hc : Course w₀ h us w) (hs : w₀.cache.Solvent) : w.cache.Solvent := by
  induction hc with
  | rest => exact hs
  | tick _ _ ih => exact ih
  | look _ _ ih => exact solvent_get ih
  | sweep _ ih => exact solvent_sweep ih
  | put _ _ value lifetime cost ih => exact solvent_put ih value lifetime cost
  | forget _ family ih => exact solvent_invalidate ih family
  | clear _ _ => exact solvent_clear _

/-- Under the key of a live entry of a solvent cache that entry is found. -/
theorem Solvent.find?_of_mem (h : c.Solvent) {e : CacheEntry α} (he : e ∈ c.live now) :
    c.find? now e.key = some e := by
  cases hf : c.find? now e.key with
  | none => exact absurd rfl (find?_eq_none hf (mem_live.mp he).1 (mem_live.mp he).2)
  | some d =>
    obtain ⟨hd, -, hk⟩ := find?_eq_some hf
    rw [List.inj_on_of_nodup_map h.keys hd (mem_live.mp he).1 hk]

theorem Solvent.nodup_keys (h : c.Solvent) (now : Quantity) : (c.keys now).Nodup :=
  h.keys.sublist (List.filter_sublist.map _)

theorem Solvent.size_le (h : c.Solvent) (now : Quantity) : c.size now ≤ c.capacity :=
  (total_le_of_sublist List.filter_sublist).trans h.total

end Solvent

/-! ## Storing -/

section Storing

variable {c c' : Cache α} {now : Quantity} {e : CacheEntry α} {key : String} {value : Option α}
  {lifetime : Lifetime} {kept : Bool} {n : Int}

/-- **What is live after a store** was live before under another key, or it is what was stored, at
the cost that was said. -/
theorem mem_live_set (hr : c.retains)
    (hs : c.set now key value lifetime (.units n) = .ok (kept, c')) (he : e ∈ c'.live now) :
    e ∈ c.live now ∧ e.key ≠ key ∨ e.key = key ∧ e.value = value ∧ (e.cost : Int) = n := by
  obtain ⟨hmem, hlive⟩ := mem_live.mp he
  have hstore : c.store now key value lifetime n = .ok (kept, c') := by
    simpa [set, hr] using hs
  rcases store_cases hstore with ⟨-, rfl⟩ | ⟨expiry, -, -, ⟨-, rfl⟩ | ⟨-, hn, rfl⟩⟩
  · obtain ⟨hold, hnot⟩ := List.mem_filter.mp hmem
    refine Or.inl ⟨mem_live.mpr ⟨hold, hlive⟩, fun hk => ?_⟩
    simp [hk, hlive] at hnot
  · obtain ⟨hold, hne⟩ := mem_without.mp hmem
    exact Or.inl ⟨mem_live.mpr ⟨hold, hlive⟩, hne⟩
  · rcases List.mem_append.mp hmem with hmem | hmem
    · have hrest := (makeRoom_suffix _ _ _).subset hmem
      exact Or.inl (mem_without.mp hrest)
    · rw [List.mem_singleton.mp hmem]
      exact Or.inr ⟨rfl, rfl, Int.toNat_of_nonneg hn⟩

/-- **When a value cannot be stored**: it is not too dear, but the end of its lifetime cannot be
told, or it would be kept at a cost below zero. -/
theorem set_eq_error_iff (hr : c.retains) {fault : CacheFault} :
    c.set now key value lifetime (.units n) = .error fault ↔ n ≤ c.capacity ∧
      (lifetime.expiry now = .error fault ∨
        ∃ x, lifetime.expiry now = .ok x ∧ now.lt x ∧ n < 0 ∧ fault = .negativeCost) := by
  unfold set store
  rw [if_neg (by simp [hr])]
  by_cases hcap : (c.capacity : Int) < n
  · simp only [hcap, if_true]
    exact iff_of_false nofun fun h => absurd h.1 (by omega)
  · simp only [hcap, if_false]
    cases hx : lifetime.expiry now with
    | error fault' =>
      simp only [bind, Except.bind, Except.error.injEq]
      exact ⟨fun h => ⟨by omega, Or.inl h⟩, fun h => h.2.elim id nofun⟩
    | ok x =>
      simp only [bind, Except.bind]
      by_cases hl : now.lt x
      · by_cases hn : n < 0
        · simp only [hl, hn, if_true, Bool.not_true, Bool.false_eq_true, if_false]
          constructor
          · rintro h
            cases h
            exact ⟨by omega, Or.inr ⟨x, rfl, hl, trivial, rfl⟩⟩
          · rintro ⟨-, h | ⟨y, -, -, -, rfl⟩⟩
            · cases h
            · rfl
        · simp only [hl, hn, Bool.not_true, Bool.false_eq_true, if_false]
          exact iff_of_false nofun fun h => h.2.elim nofun fun ⟨_, _, _, hneg, _⟩ => hneg
      · simp only [hl, Bool.not_false, if_true]
        refine iff_of_false nofun fun h => h.2.elim nofun ?_
        rintro ⟨y, hy, hlate, -⟩
        cases hy
        exact hl hlate

end Storing

/-! ## The accounts beside a record -/

/-- **The record accounts for what is live**: the cache is solvent, and every live entry holds and
costs what its deposit says. -/
structure Accounted (capacity : Nat) (h : List (Note α)) (w : World α) : Prop where
  solvent : w.cache.Solvent
  retains : w.cache.retains
  capacity_eq : w.cache.capacity = capacity
  priced : ∀ e ∈ w.cache.live w.clock,
    ∃ d, Stands e.key d h ∧ d.value = e.value ∧ d.cost = e.cost

section Accounted

variable {capacity : Nat} {h : List (Note α)} {w : World α} {e : CacheEntry α}

theorem accounted_empty (clock : Quantity) :
    Accounted capacity ([] : List (Note α)) ⟨clock, .empty capacity true⟩ :=
  ⟨solvent_empty capacity true, rfl, rfl, fun _ he => absurd he List.not_mem_nil⟩

/-- A note that stores nothing, after which there is nothing live but what it does not end. -/
theorem Accounted.note (ha : Accounted capacity h w) {t : Quantity} {c : Cache α} {n : Note α}
    (hs : c.Solvent) (hr : c.retains = w.cache.retains) (hc : c.capacity = w.cache.capacity)
    (hn : ∀ d, n ≠ .stored d)
    (hlive : ∀ e ∈ c.live t, e ∈ w.cache.live w.clock ∧ ¬n.Ends e.key) :
    Accounted capacity (h ++ [n]) ⟨t, c⟩ := by
  refine ⟨hs, hr.trans ha.retains, hc.trans ha.capacity_eq, fun e he => ?_⟩
  obtain ⟨hold, hends⟩ := hlive e he
  obtain ⟨d, hd, hprice⟩ := ha.priced e hold
  exact ⟨d, (stands_append_note hn).mpr ⟨hd, hends⟩, hprice⟩

/-- What makes nothing live may go unrecorded. -/
theorem Accounted.of_live (ha : Accounted capacity h w) {c : Cache α} (hs : c.Solvent)
    (hr : c.retains = w.cache.retains) (hc : c.capacity = w.cache.capacity)
    (hlive : ∀ e ∈ c.live w.clock, e ∈ w.cache.live w.clock) :
    Accounted capacity h { w with cache := c } :=
  ⟨hs, hr.trans ha.retains, hc.trans ha.capacity_eq, fun e he => ha.priced e (hlive e he)⟩

theorem Accounted.put (ha : Accounted capacity h w) (key : String) (value : Option α)
    (lifetime : Lifetime) (cost : Cost) :
    Accounted capacity (h ++ storeNotes w key value lifetime cost)
      (w.put key value lifetime cost) := by
  rcases put_cases ha.retains key value lifetime cost with
    ⟨hnotes, hput⟩ | ⟨n, kept, c, hs, hnotes, hput⟩
  · rwa [hnotes, hput, List.append_nil]
  obtain ⟨-, hretains, hcapacity⟩ := set_frame hs
  rw [hnotes, hput, List.append_cons]
  refine ⟨solvent_set ha.solvent hs, hretains.trans ha.retains, hcapacity.trans ha.capacity_eq,
    fun e he => ?_⟩
  have hout : e.key ∉ crowdedOut w.clock key n w.cache c :=
    not_mem_crowdedOut ⟨e, he, rfl, rfl, rfl⟩
  simp only [stands_append_crowdedOut, stands_append_stored]
  rcases mem_live_set ha.retains hs he with ⟨hold, hne⟩ | ⟨hk, hv, hcost⟩
  · obtain ⟨d, hd, hprice⟩ := ha.priced e hold
    exact ⟨d, ⟨Or.inr ⟨hd, hne.symm⟩, hout⟩, hprice⟩
  · exact ⟨_, ⟨Or.inl ⟨rfl, hk.symm⟩, hout⟩, hv.symm, hcost.symm⟩

/-- **All changes keep the accounts.** -/
theorem kept_accounted : Kept (Accounted (α := α) capacity) where
  tick ha ht := ha.note ha.solvent rfl rfl nofun fun e he => by
    obtain ⟨hmem, hlive⟩ := mem_live.mp he
    exact ⟨mem_live.mpr ⟨hmem, isLive_of_le ht hlive⟩, id⟩
  look ha key := by
    obtain ⟨hretains, hcapacity⟩ := get_frame _ _ key
    refine ha.of_live (solvent_get ha.solvent) hretains hcapacity fun e he => ?_
    obtain ⟨hmem, hlive⟩ := mem_live.mp he
    exact mem_live.mpr ⟨mem_of_mem_get hmem, hlive⟩
  sweep ha := ha.of_live (solvent_sweep ha.solvent) rfl rfl fun e he => (mem_live.mp he).1
  put ha key value lifetime cost := ha.put key value lifetime cost
  forget ha family := ha.note (solvent_invalidate ha.solvent family) rfl rfl nofun fun e he => by
    obtain ⟨hmem, hlive⟩ := mem_live.mp he
    obtain ⟨hold, hnot⟩ := mem_invalidate.mp hmem
    exact ⟨mem_live.mpr ⟨hold, hlive⟩, fun hu => hnot ⟨hu, hlive⟩⟩
  clear ha := ha.note (solvent_clear _) rfl rfl nofun fun _ he => absurd he List.not_mem_nil

end Accounted

/-! ## The accounts after a run -/

/-- **The accounts of a cache balance.** -/
structure Balanced (capacity : Nat) (h : List (Note α)) (w : World α) : Prop where
  /-- The live keys are different from each other, -/
  keys : (w.cache.keys w.clock).Nodup
  /-- there are as many of them as live entries, -/
  count : w.cache.count w.clock = (w.cache.keys w.clock).length
  /-- and under each of them stands a deposit; together these cost what the live entries cost. -/
  size : ∃ deposit : String → Deposit α,
    (∀ key ∈ w.cache.keys w.clock, Stands key (deposit key) h) ∧
    (w.cache.size w.clock : Int) = ((w.cache.keys w.clock).map fun key => (deposit key).cost).sum
  /-- That is no more than the capacity. -/
  bound : w.cache.size w.clock ≤ capacity
  /-- A value can be stored next, unless the end of its lifetime cannot be told, or it would be kept
  at a cost below zero. -/
  refused : ∀ key value lifetime n fault,
    (perform w (.set key value lifetime (.units n))).1 = .error fault ↔ n ≤ capacity ∧
      (lifetime.expiry w.clock = .error fault ∨
        ∃ x, lifetime.expiry w.clock = .ok x ∧ w.clock.lt x ∧ n < 0 ∧ fault = .negativeCost)

theorem perform_set_eq_error_iff {w : World α} {key : String} {value : Option α}
    {lifetime : Lifetime} {cost : Cost} {fault : CacheFault} :
    (perform w (.set key value lifetime cost)).1 = .error fault ↔
      w.cache.set w.clock key value lifetime cost = .error fault := by
  unfold perform
  cases w.cache.set w.clock key value lifetime cost <;> simp

/-- Deposits for the keys of some entries, which cost what the entries do. -/
theorem exists_deposits {h : List (Note α)} {es : List (CacheEntry α)}
    (hp : ∀ e ∈ es, ∃ d, Stands e.key d h ∧ d.cost = e.cost) :
    ∃ deposit : String → Deposit α, (∀ key ∈ es.map (·.key), Stands key (deposit key) h) ∧
      (total es : Int) = ((es.map (·.key)).map fun key => (deposit key).cost).sum := by
  have hchoice : ∀ key, ∃ d : Deposit α, (∃ d', Stands key d' h) → Stands key d h := by
    intro key
    by_cases hk : ∃ d', Stands key d' h
    · exact ⟨hk.choose, fun _ => hk.choose_spec⟩
    · exact ⟨⟨0, key, none, .seconds 0, 0⟩, fun hk' => absurd hk' hk⟩
  choose deposit hdeposit using hchoice
  have hcost : ∀ e ∈ es, Stands e.key (deposit e.key) h ∧ (deposit e.key).cost = e.cost := by
    intro e he
    obtain ⟨d, hd, hcost⟩ := hp e he
    have hstands := hdeposit e.key ⟨d, hd⟩
    exact ⟨hstands, hstands.unique hd ▸ hcost⟩
  refine ⟨deposit, fun key hk => ?_, ?_⟩
  · obtain ⟨e, he, rfl⟩ := List.mem_map.mp hk
    exact (hcost e he).1
  · rw [total_eq_sum, List.map_map, Nat.cast_list_sum, List.map_map]
    exact congrArg List.sum (List.map_congr_left fun e he => (hcost e he).2.symm)

theorem Accounted.balanced {capacity : Nat} {h : List (Note α)} {w : World α}
    (ha : Accounted capacity h w) : Balanced capacity h w where
  keys := ha.solvent.nodup_keys w.clock
  count := (List.length_map ..).symm
  size := exists_deposits fun e he => by
    obtain ⟨d, hd, -, hcost⟩ := ha.priced e he
    exact ⟨d, hd, hcost⟩
  bound := ha.capacity_eq ▸ ha.solvent.size_le w.clock
  refused key value lifetime n fault := by
    rw [perform_set_eq_error_iff, set_eq_error_iff ha.retains, ha.capacity_eq]

/-- **The accounts balance after every run** from an empty cache, by a clock that does not go
back. -/
theorem balanced_after {capacity : Nat} {clock : Quantity} {as : List (Action α)}
    (ho : Onward (record ⟨clock, .empty capacity true⟩ as)) :
    Balanced capacity (record ⟨clock, .empty capacity true⟩ as)
      (World.after ⟨clock, .empty capacity true⟩ as) := by
  have ha := kept_accounted.after (accounted_empty clock) as ho
  rw [List.nil_append] at ha
  exact ha.balanced

end Gazetteer.Cache
