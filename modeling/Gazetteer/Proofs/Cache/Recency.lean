import Gazetteer.Proofs.Cache.Accounting
import Mathlib.Data.List.Dedup

/-!
# The order of the entries

The entries of a cache stand in the order of their last uses.  A key is used when it is looked up
and found, and when something that lasts is stored under it; nothing else moves an entry.  To make
room, entries are dropped from the front only, no more of them than it takes, so that what stays is
the longest row of the most recently used ones that leaves room enough.

* `keys_sublist`: the keys of the entries, in their order, are among the keys of the uses, each
  taken at its last use; every change keeps that;
* `makeRoom_longest`: nothing is dropped that could stay;
* `MakesRoom`: what is live after something was stored;
* `Recency`, `recency_after`: the order of the live keys after any run, and what is stored next;
* `store_rounded`: a positive lifetime may be over at once, by a clock that shows a double.
-/

namespace Gazetteer.Cache

open Number

variable {α : Type}

/-! ## Last uses -/

theorem dedup_concat (us : List String) (key : String) :
    (us ++ [key]).dedup = us.dedup.filter (· ≠ key) ++ [key] := by
  induction us with
  | nil => simp
  | cons u us ih =>
    rw [List.cons_append]
    by_cases hu : u ∈ us
    · rw [List.dedup_cons_of_mem (List.mem_append_left _ hu), List.dedup_cons_of_mem hu, ih]
    · rw [List.dedup_cons_of_notMem hu]
      by_cases hk : u = key
      · rw [List.dedup_cons_of_mem (by simp [hk]), ih, List.filter_cons_of_neg (by simp [hk])]
      · have hout : u ∉ us ++ [key] := by simp [hu, hk]
        rw [List.dedup_cons_of_notMem hout, ih, List.filter_cons_of_pos (by simp [hk]),
          List.cons_append]

/-- A part of a row without repetitions is what is left of the row if the rest is left out. -/
theorem eq_filter_of_sublist {ks us : List String} {p : String → Bool} (h : ks.Sublist us)
    (hus : us.Nodup) (hp : ∀ k, k ∈ ks ↔ k ∈ us ∧ p k) : ks = us.filter p := by
  have hself : ks.filter p = ks := List.filter_eq_self.mpr fun k hk => ((hp k).mp hk).2
  have hsub : ks.Sublist (us.filter p) := hself ▸ h.filter p
  refine hsub.eq_of_length_le (((hus.filter p).subperm fun k hk => ?_).length_le)
  exact (hp k).mpr (List.mem_filter.mp hk)

theorem map_key_without (key : String) (es : List (CacheEntry α)) :
    (without key es).map (·.key) = (es.map (·.key)).filter (· ≠ key) := by
  rw [List.filter_map]
  rfl

section Order

variable {w₀ w : World α} {h : List (Note α)} {us : List String} {key : String}

/-- A use moves the key to the end. -/
theorem sublist_of_use {es : List (CacheEntry α)} {e : CacheEntry α}
    (hs : (es.map (·.key)).Sublist us.dedup) :
    ((without e.key es ++ [e]).map (·.key)).Sublist (us ++ [e.key]).dedup := by
  rw [List.map_append, map_key_without, dedup_concat]
  exact (hs.filter _).append (List.Sublist.refl _)

theorem look_cases (w : World α) (key : String) :
    (lookUses w key = [] ∧ w.look key = w) ∨ ∃ e, e.key = key ∧ lookUses w key = [e.key] ∧
      (w.look key).cache.entries = without e.key w.cache.entries ++ [e] := by
  unfold lookUses World.look contains
  cases hf : w.cache.find? w.clock key with
  | none => exact Or.inl ⟨rfl, by rw [get_of_find?_eq_none hf]⟩
  | some e =>
    obtain ⟨-, -, rfl⟩ := find?_eq_some hf
    exact Or.inr ⟨e, rfl, rfl, by rw [get_of_find?_eq_some hf]⟩

/-- **Storing something uses the key, and then it is placed**; otherwise entries may go at most. -/
theorem store_use_cases (w : World α) (key : String) (value : Option α) (lifetime : Lifetime)
    (cost : Cost) :
    (storeUses w key value lifetime cost = [] ∧
      (w.put key value lifetime cost).cache.entries.Sublist w.cache.entries) ∨
    ∃ e, e.key = key ∧ storeUses w key value lifetime cost = [e.key] ∧
      w.put key value lifetime cost = { w with cache := w.cache.place w.clock e } := by
  unfold storeUses World.put set
  cases hr : w.cache.retains with
  | false => exact Or.inl ⟨rfl, List.Sublist.refl _⟩
  | true =>
    cases cost with
    | improper kind => exact Or.inl ⟨rfl, List.Sublist.refl _⟩
    | units n =>
      simp only [Bool.not_true, Bool.false_eq_true, if_false, store]
      by_cases hcap : (w.cache.capacity : Int) < n
      · rw [if_pos hcap]
        exact Or.inl ⟨rfl, List.filter_sublist⟩
      · rw [if_neg hcap]
        cases hx : lifetime.expiry w.clock with
        | error fault => exact Or.inl ⟨rfl, List.Sublist.refl _⟩
        | ok x =>
          simp only [bind, Except.bind, Lifetime.lasts, hx]
          cases hl : w.clock.lt x with
          | false => exact Or.inl ⟨rfl, List.filter_sublist⟩
          | true =>
            by_cases hn : n < 0
            · simp only [Bool.not_true, Bool.false_eq_true, if_false, if_pos hn]
              exact Or.inl ⟨trivial, List.Sublist.refl _⟩
            · simp only [Bool.not_true, Bool.false_eq_true, if_false, if_neg hn]
              exact Or.inr ⟨_, rfl, rfl, rfl⟩

/-- **The entries stand in the order of their last uses.** -/
theorem Course.keys_sublist (hc : Course w₀ h us w) (hn : w₀.cache.entries = []) :
    (w.cache.entries.map (·.key)).Sublist us.dedup := by
  have hfewer : ∀ {es es' : List (CacheEntry α)} {us : List String}, es'.Sublist es →
      (es.map (·.key)).Sublist us.dedup → (es'.map (·.key)).Sublist us.dedup :=
    fun hsub hs => (hsub.map _).trans hs
  induction hc with
  | rest => simp [hn]
  | tick _ _ ih => exact ih
  | @look _ us w _ key ih =>
    rcases look_cases w key with ⟨huses, hlook⟩ | ⟨e, -, huses, hentries⟩
    · rwa [huses, hlook, List.append_nil]
    · rw [huses, hentries]
      exact sublist_of_use ih
  | sweep _ ih => exact hfewer List.filter_sublist ih
  | @put _ us w _ key value lifetime cost ih =>
    rcases store_use_cases w key value lifetime cost with ⟨huses, hsub⟩ | ⟨e, -, huses, hput⟩
    · rw [huses, List.append_nil]
      exact hfewer hsub ih
    · rw [huses, hput]
      have hroom : (makeRoom w.cache.capacity e.cost (without e.key (w.cache.live w.clock))).Sublist
          (without e.key w.cache.entries) :=
        (makeRoom_suffix _ _ _).sublist.trans (List.filter_sublist.filter _)
      exact hfewer (hroom.append (List.Sublist.refl [e])) (sublist_of_use ih)
  | forget _ _ ih => exact hfewer List.filter_sublist ih
  | clear _ _ => exact List.nil_sublist _

/-- **The live keys stand in the order of their last uses.** -/
theorem Course.keys_eq (hc : Course w₀ h us w) (hn : w₀.cache.entries = []) :
    w.cache.keys w.clock = us.dedup.filter (w.cache.contains w.clock ·) := by
  have hsub : (w.cache.keys w.clock).Sublist us.dedup :=
    (List.filter_sublist.map _).trans (hc.keys_sublist hn)
  refine eq_filter_of_sublist hsub us.nodup_dedup fun key => ?_
  have hmem : key ∈ w.cache.keys w.clock ↔ w.cache.contains w.clock key = true := by
    rw [contains_iff]
    constructor
    · intro hk
      obtain ⟨e, he, rfl⟩ := List.mem_map.mp hk
      exact ⟨e.value, e.expiry, e, he, rfl, rfl, rfl⟩
    · rintro ⟨v, x, hholds⟩
      exact hholds.mem_keys
  rw [← hmem]
  exact ⟨fun hk => ⟨hsub.subset hk, hk⟩, And.right⟩

end Order

/-! ## Making room -/

/-- **Nothing is dropped that could stay**: what is left contains every end of the row that can be
afforded. -/
theorem makeRoom_longest {capacity cost : Nat} {es es' : List (CacheEntry α)} (hs : es' <:+ es)
    (hroom : total es' + cost ≤ capacity) : es' <:+ makeRoom capacity cost es := by
  induction es with
  | nil => rwa [makeRoom]
  | cons e es ih =>
    unfold makeRoom
    split
    · exact hs
    · next hfull =>
      rcases List.suffix_cons_iff.mp hs with rfl | hs
      · exact absurd hroom hfull
      · exact ih hs

/-- **What is live after an entry was stored**, and what had to go for it. -/
structure MakesRoom (now : Quantity) (c c' : Cache α) (e : CacheEntry α) : Prop where
  /-- The new entry is the most recently used one, and the only one under its key. -/
  newest : c'.live now = without e.key (c'.live now) ++ [e]
  /-- The others that stay, unchanged, are the most recently used ones; -/
  suffix : without e.key (c'.live now) <:+ without e.key (c.live now)
  /-- they can be afforded beside it, -/
  room : total (without e.key (c'.live now)) + e.cost ≤ c.capacity
  /-- and no more of them could be. -/
  longest : ∀ es, es <:+ without e.key (c.live now) → total es + e.cost ≤ c.capacity →
    es <:+ without e.key (c'.live now)
  /-- If it replaces one that cost no less, all others stay. -/
  spared : ∀ d ∈ c.live now, d.key = e.key → e.cost ≤ d.cost →
    without e.key (c'.live now) = without e.key (c.live now)

section Room

variable {c : Cache α} {now : Quantity} {e : CacheEntry α}

theorem live_place (hl : e.isLive now) : (c.place now e).live now =
    makeRoom c.capacity e.cost (without e.key (c.live now)) ++ [e] := by
  refine List.filter_eq_self.mpr fun d hd => ?_
  rcases List.mem_append.mp hd with hd | hd
  · have hmem := (makeRoom_suffix c.capacity e.cost (without e.key (c.live now))).subset hd
    exact (mem_live.mp (mem_without.mp hmem).1).2
  · rwa [List.mem_singleton.mp hd]

/-- What is live beside an entry that was placed. -/
theorem without_place (hl : e.isLive now) : without e.key ((c.place now e).live now) =
    makeRoom c.capacity e.cost (without e.key (c.live now)) := by
  set rest := makeRoom c.capacity e.cost (without e.key (c.live now)) with hrest
  have hself : without e.key rest = rest := by
    refine without_eq_self fun hmem => ?_
    obtain ⟨d, hd, hk⟩ := List.mem_map.mp hmem
    exact (mem_without.mp ((makeRoom_suffix _ _ _).subset hd)).2 hk
  have hgone : without e.key [e] = [] := by simp [without]
  rw [live_place hl, ← hrest, without, List.filter_append, ← without, ← without, hself, hgone,
    List.append_nil]

/-- What the others cost together, beside one of the entries. -/
theorem total_without (hs : c.Solvent) {d : CacheEntry α} (hd : d ∈ c.live now) :
    total (without d.key (c.live now)) + d.cost = c.size now := by
  have hperm := without_append_perm (hs.nodup_keys now) hd
  have hone : total [d] = d.cost := by simp [total]
  rw [size, ← total_perm hperm, total_append, hone]

theorem makesRoom_place (hs : c.Solvent) (hl : e.isLive now) (he : e.cost ≤ c.capacity) :
    MakesRoom now c (c.place now e) e := by
  set others := without e.key (c.live now) with hothers
  set rest := makeRoom c.capacity e.cost others with hrest
  have hsuffix : rest <:+ others := makeRoom_suffix _ _ _
  have hlive : (c.place now e).live now = rest ++ [e] := live_place hl
  have hleft : without e.key ((c.place now e).live now) = rest := without_place hl
  refine ⟨?_, ?_, ?_, ?_, ?_⟩
  · rw [hleft, hlive]
  · rwa [hleft]
  · rw [hleft]
    exact total_makeRoom_le he others
  · intro es hes hroom
    rw [hleft]
    exact makeRoom_longest hes hroom
  · intro d hd hk hcost
    have htotal := total_without hs hd
    have hsize := hs.size_le now
    rw [hk, ← hothers] at htotal
    rw [hleft]
    exact makeRoom_eq_self (by omega)

end Room

/-! ## After a run -/

/-- A positive lifetime lasts, if its end is computed exactly. -/
theorem lasts_of_endsExactly {now n : Quantity} {q : ℚ}
    (hq : now.level = ((q : WithTop ℚ) : WithBot (WithTop ℚ))) (hx : EndsExactly now n)
    (hn : 0 < n.level) : (Lifetime.seconds n).lasts now := by
  obtain ⟨x, hadd, hnumber, hlevel⟩ := hx
  have hnow : now.isNumber := by
    rcases now with m | (⟨s, m, e⟩ | _ | _)
    · rfl
    · rfl
    · rfl
    · cases hq
  have hlater : now.level < now.level + n.level := by
    rw [hq]
    cases hp : n.level with
    | bot => rw [hp] at hn; cases hn
    | coe p =>
      rw [hp] at hn
      cases p with
      | top => exact Quantity.coe_lt_top q
      | coe p =>
        have hpos : (0 : ℚ) < p := by exact_mod_cast hn
        exact_mod_cast lt_add_of_pos_right q hpos
  have hlt : now.lt x := Quantity.lt_iff.mpr ⟨hnow, hnumber, hlevel ▸ hlater⟩
  simpa [Lifetime.lasts, Lifetime.expiry, Clock.advance, hadd, Except.mapError] using hlt

/-- **The order in a cache after some uses**, and what is stored next. -/
structure Recency (capacity : Nat) (us : List String) (w : World α) : Prop where
  /-- The live keys stand in the order of their last uses. -/
  order : w.cache.keys w.clock = us.dedup.filter (w.cache.contains w.clock ·)
  /-- Whatever lasts and can be afforded is stored, and room is made for it. -/
  store : ∀ key value lifetime (n : Nat), lifetime.lasts w.clock → n ≤ capacity → ∃ x c,
    lifetime.expiry w.clock = .ok x ∧
      perform w (.set key value lifetime (.units n)) = (.ok (.truth true), { w with cache := c }) ∧
        MakesRoom w.clock w.cache c ⟨key, value, x, n⟩
  /-- Every positive lifetime lasts, if the clock is finite and the end is computed exactly. -/
  lasts : ∀ (n : Quantity) (q : ℚ), w.clock.level = ((q : WithTop ℚ) : WithBot (WithTop ℚ)) →
    EndsExactly w.clock n → 0 < n.level → (Lifetime.seconds n).lasts w.clock

theorem exists_expiry {now : Quantity} {lifetime : Lifetime} (h : lifetime.lasts now) :
    ∃ x, lifetime.expiry now = .ok x ∧ now.lt x := by
  unfold Lifetime.lasts at h
  cases hx : lifetime.expiry now with
  | error fault => rw [hx] at h; cases h
  | ok x => exact ⟨x, rfl, by simpa [hx] using h⟩

/-- **Eviction is by least recent use**, after every run from an empty cache: the live keys stand
in the order of their last uses, and storing drops the least recently used ones, no more of them
than it takes. -/
theorem recency_after (capacity : Nat) (clock : Quantity) (as : List (Action α)) :
    Recency capacity (usage ⟨clock, .empty capacity true⟩ as)
      (World.after ⟨clock, .empty capacity true⟩ as) := by
  have hcourse := course_after ⟨clock, .empty capacity true⟩ as
  have hsolvent := hcourse.solvent (solvent_empty capacity true)
  have horder := hcourse.keys_eq rfl
  obtain ⟨hretains, hcapacity⟩ := hcourse.frame
  generalize World.after ⟨clock, .empty capacity true⟩ as = w at *
  refine ⟨horder, fun key value lifetime n hlasts hn => ?_, fun n q hq hx hpos =>
    lasts_of_endsExactly hq hx hpos⟩
  obtain ⟨x, hx, hlt⟩ := exists_expiry hlasts
  have hn : n ≤ w.cache.capacity := hcapacity ▸ hn
  have hset : w.cache.set w.clock key value lifetime (.units n) =
      .ok (true, w.cache.place w.clock ⟨key, value, x, n⟩) := by
    have hcost : ¬(w.cache.capacity : Int) < n := by omega
    have hsign : ¬(n : Int) < 0 := by omega
    have hkeeps : w.cache.retains = true := hretains
    simp [set, store, hkeeps, hcost, hsign, hx, hlt, bind, Except.bind]
  refine ⟨x, w.cache.place w.clock ⟨key, value, x, n⟩, hx, ?_, makesRoom_place hsolvent hlt hn⟩
  simp only [perform, hset]

/-- The last use counts, not the last store. -/
example : (World.after (α := Nat) ⟨0, .empty 2 true⟩
    [.set "a" (some 1) (.seconds 60) (.units 1), .set "b" (some 2) (.seconds 60) (.units 1),
      .get "a", .set "c" (some 3) (.seconds 60) (.units 1)]).cache.keys 0 = ["a", "c"] := rfl

/-- **A positive lifetime may be over at once.**  A second after 10¹⁷ seconds is rounded away, if
the clock shows a double. -/
theorem store_rounded :
    let clock : Quantity := .real (.ofRat 100000000000000000)
    (0 : Quantity).lt 1 ∧ ((1 : Nat) ≤ 10) ∧
      (World.after (α := Nat) ⟨clock, .empty 10 true⟩
        [.set "a" (some 1) (.seconds 1) (.units 1)]).cache.keys clock = [] := by
  decide +kernel

end Gazetteer.Cache
