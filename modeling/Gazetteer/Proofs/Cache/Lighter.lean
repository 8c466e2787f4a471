import Gazetteer.Proofs.Cache.Generations
import Gazetteer.Proofs.Cache.Recency

/-!
# A cache beside one that holds more

Since room is made from the front of the row, whatever would have been dropped later is dropped
later still, or not at all, once a family is gone.  Beside a cache that forgets runs one that does
not, and the first one holds, behind some entries more, what is live in the second one and was not
to be forgotten.

* `evicted`, `evicted_storeNotes`: what is crowded out, and in which order;
* `Lighter`, `Lighter.place`, `Lighter.use`: a row beside one that holds more;
* `Lightens`, `Lightens.perform`, `Lightens.after`: a world beside one whose cache holds more; and
  so it goes on, while both do the same in step (`InStep`).
-/

namespace Gazetteer.Cache

open Number

variable {α : Type}

/-- The world after a family was forgotten. -/
def World.forget (w : World α) (family : String) : World α :=
  { w with cache := (w.cache.invalidate w.clock family).2 }

/-! ## What is live -/

section Live

variable {c : Cache α} {now t : Quantity} {key family : String}

/-- **What is live after a family was forgotten** was live before, and is not of the family. -/
theorem live_invalidate : (c.invalidate now family).2.live now =
    (c.live now).filter fun e => !isUnder family e.key := by
  simp only [live, invalidate, List.filter_filter]
  refine List.filter_congr fun e _ => ?_
  cases e.isLive now <;> cases isUnder family e.key <;> rfl

theorem live_dropLive : (c.dropLive now key).live now = without key (c.live now) := by
  simp only [dropLive, live, without, List.filter_filter]
  refine List.filter_congr fun e _ => ?_
  by_cases hk : e.key = key <;> cases e.isLive now <;> simp [hk]

theorem live_drop : (c.drop key).live now = without key (c.live now) := by
  simp only [drop, live, without, List.filter_filter]
  exact List.filter_congr fun e _ => Bool.and_comm _ _

/-- What time does to what is live. -/
theorem live_later (h : now.Le t) : c.live t = (c.live now).filter (·.isLive t) := by
  simp only [live, List.filter_filter]
  refine List.filter_congr fun e _ => ?_
  cases hl : e.isLive t with
  | false => rfl
  | true => rw [isLive_of_le h hl]; rfl

theorem live_sweep (c : Cache α) (now : Quantity) : (c.sweep now).live now = c.live now := by
  simp [sweep, live, List.filter_filter]

end Live

/-! ## What is crowded out -/

section Evicted

variable {c c' : Cache α} {now t : Quantity} {key : String} {e : CacheEntry α}

/-- **The keys that were crowded out**, in that order. -/
def evicted (h : List (Note α)) : List String :=
  h.filterMap fun
    | .crowdedOut key => some key
    | _ => none

theorem evicted_append (h h' : List (Note α)) : evicted (h ++ h') = evicted h ++ evicted h' :=
  List.filterMap_append

theorem contains_iff_mem_keys : c.contains now key ↔ key ∈ c.keys now := by
  rw [contains_iff]
  constructor
  · rintro ⟨v, x, hholds⟩
    exact hholds.mem_keys
  · intro hk
    obtain ⟨e, he, rfl⟩ := List.mem_map.mp hk
    exact ⟨e.value, e.expiry, e, he, rfl, rfl, rfl⟩

/-- **The front of the row is crowded out**, if the rest of it is what stays. -/
theorem crowdedOut_eq {cost : Int} {front rest : List (CacheEntry α)} (hs : (c.keys now).Nodup)
    (hsplit : without key (c.live now) = front ++ rest)
    (hkeys : ∀ k, k ≠ key → (k ∈ c'.keys now ↔ k ∈ rest.map (·.key)))
    (hroom : total (without key (c.live now)) + cost ≤ c.capacity → front = []) :
    crowdedOut now key cost c c' = front.map (·.key) := by
  unfold crowdedOut
  split
  · next h => rw [hroom h, List.map_nil]
  · have hrow : (c.keys now).filter (· ≠ key) = front.map (·.key) ++ rest.map (·.key) := by
      rw [keys, ← map_key_without, hsplit, List.map_append]
    have hnodup : (front.map (·.key) ++ rest.map (·.key)).Nodup := hrow ▸ hs.filter _
    have hgone : (c.keys now).filter (fun k => k ≠ key && !c'.contains now k) =
        ((c.keys now).filter (· ≠ key)).filter fun k => k ∉ rest.map (·.key) := by
      rw [List.filter_filter]
      refine List.filter_congr fun k _ => ?_
      by_cases hk : k = key
      · simp [hk]
      · have hmem := (contains_iff_mem_keys (c := c')).trans (hkeys k hk)
        by_cases hc : c'.contains now k = true
        · simp [hc, hmem.mp hc]
        · simp [hk, hc, mt hmem.mpr hc]
    rw [hgone, hrow, List.filter_append]
    have hfront : (front.map (·.key)).filter (fun k => k ∉ rest.map (·.key)) =
        front.map (·.key) := by
      refine List.filter_eq_self.mpr fun k hk => ?_
      have hne := (List.nodup_append.mp hnodup).2.2 k hk
      exact decide_eq_true fun hmem => hne k hmem rfl
    have hrest : (rest.map (·.key)).filter (fun k => k ∉ rest.map (·.key)) = [] := by
      simp
    rw [hfront, hrest, List.append_nil]

/-- **What storing crowds out**: a front part of the other entries, of which the rest stays. -/
theorem evicted_storeNotes {w : World α} {value : Option α} {lifetime : Lifetime} {cost : Cost}
    {kept : Bool} {front rest : List (CacheEntry α)} (hs : w.cache.Solvent)
    (h : w.cache.set w.clock key value lifetime cost = .ok (kept, c))
    (hsplit : without key (w.cache.live w.clock) = front ++ rest)
    (hlive : without key (c.live w.clock) = rest)
    (hfront : front = [] ∨ ∃ n, cost = .units n ∧
      ¬total (without key (w.cache.live w.clock)) + n ≤ w.cache.capacity) :
    evicted (storeNotes w key value lifetime cost) = front.map (·.key) := by
  cases cost with
  | improper kind =>
    rcases hfront with rfl | ⟨n, hn, -⟩
    · rfl
    · cases hn
  | units n =>
    have hkeys : ∀ k, k ≠ key → (k ∈ c.keys w.clock ↔ k ∈ rest.map (·.key)) := by
      intro k hk
      rw [← hlive, map_key_without, List.mem_filter]
      simp [keys, hk]
    have hcrowd := crowdedOut_eq (hs.nodup_keys w.clock) hsplit hkeys fun hroom =>
      hfront.elim id fun ⟨m, hm, hfull⟩ => absurd (Cost.units.inj hm ▸ hroom) hfull
    have hevicted : ∀ ks : List String, evicted (ks.map (Note.crowdedOut (α := α))) = ks := by
      intro ks
      rw [evicted, List.filterMap_map]
      exact List.filterMap_some
    simp only [storeNotes, h, hcrowd]
    exact hevicted _

theorem evicted_storeNotes_of_error {w : World α} {value : Option α} {lifetime : Lifetime}
    {cost : Cost} {fault : CacheFault}
    (h : w.cache.set w.clock key value lifetime cost = .error fault) :
    evicted (storeNotes w key value lifetime cost) = [] := by
  cases cost with
  | improper kind => rfl
  | units n => simp [storeNotes, h, evicted]

theorem put_of_ok {w : World α} {value : Option α} {lifetime : Lifetime} {cost : Cost} {kept : Bool}
    (h : w.cache.set w.clock key value lifetime cost = .ok (kept, c)) :
    w.put key value lifetime cost = { w with cache := c } := by
  simp only [World.put, h]

theorem put_of_error {w : World α} {value : Option α} {lifetime : Lifetime} {cost : Cost}
    {fault : CacheFault} (h : w.cache.set w.clock key value lifetime cost = .error fault) :
    w.put key value lifetime cost = w := by
  simp only [World.put, h]

theorem without_without (key : String) (es : List (CacheEntry α)) :
    without key (without key es) = without key es := by
  simp [without, List.filter_filter]

end Evicted

/-! ## A row beside one that holds more -/

/-- The entries that are not under some keys. -/
def apart (gone : List String) (es : List (CacheEntry α)) : List (CacheEntry α) :=
  es.filter (·.key ∉ gone)

/-- The keys that are not of a family. -/
def outside (family : String) (keys : List String) : List String :=
  keys.filter fun key => !isUnder family key

theorem outside_append (family : String) (ks ks' : List String) :
    outside family (ks ++ ks') = outside family ks ++ outside family ks' := List.filter_append ..

theorem sublist_outside_filter (family : String) (us : List String) (p : CacheEntry α → Bool)
    (es : List (CacheEntry α)) : (outside family (us ++ (es.filter p).map (·.key))).Sublist
      (outside family (us ++ es.map (·.key))) :=
  ((List.Sublist.refl us).append (List.filter_sublist.map _)).filter _

/-- **A row without some entries of a family beside one with them**: all else that is in the second
row `es` stands at the end of the first one `es'`, and what stands before it there has been crowded
out of `es` already.  The keys that have been crowded out of each are `us` and `us'`. -/
def Lighter (family : String) (us us' : List String) (es es' : List (CacheEntry α)) : Prop :=
  ∃ (gone : List String) (extra : List (CacheEntry α)),
    (∀ key ∈ gone, isUnder family key) ∧ (∀ e ∈ es', e.key ∉ gone) ∧ es' = extra ++ apart gone es ∧
    (outside family (us' ++ extra.map (·.key))).Sublist (outside family us)

section Lighter

variable {family : String} {us us' : List String} {es es' : List (CacheEntry α)}

theorem lighter_forget (now : Quantity) (family : String) (c : Cache α) :
    Lighter family [] [] (c.live now) ((c.invalidate now family).2.live now) := by
  have hrow : (c.invalidate now family).2.live now =
      apart ((c.keys now).filter (isUnder family ·)) (c.live now) := by
    rw [live_invalidate]
    refine List.filter_congr fun e he => ?_
    have hmem : e.key ∈ c.keys now := List.mem_map_of_mem he
    simp [hmem]
  refine ⟨(c.keys now).filter (isUnder family ·), [], fun key hk => ?_, fun e he => ?_, hrow, ?_⟩
  · exact (List.mem_filter.mp hk).2
  · rw [live_invalidate] at he
    intro hk
    have hnot := (List.mem_filter.mp he).2
    rw [(List.mem_filter.mp hk).2] at hnot
    cases hnot
  · exact List.Sublist.refl _

/-- Some entries less on both sides. -/
theorem Lighter.filter (h : Lighter family us us' es es') (p : CacheEntry α → Bool) :
    Lighter family us us' (es.filter p) (es'.filter p) := by
  obtain ⟨gone, extra, hunder, habsent, rfl, hout⟩ := h
  refine ⟨gone, extra.filter p, hunder, fun e he => habsent e (List.mem_filter.mp he).1, ?_, ?_⟩
  · rw [List.filter_append, apart, apart, List.filter_filter, List.filter_filter]
    simp only [Bool.and_comm]
  · exact (sublist_outside_filter ..).trans hout

theorem apart_append (gone : List String) (es es' : List (CacheEntry α)) :
    apart gone (es ++ es') = apart gone es ++ apart gone es' := List.filter_append ..

theorem without_append (key : String) (es es' : List (CacheEntry α)) :
    without key (es ++ es') = without key es ++ without key es' := List.filter_append ..

theorem without_apart (key : String) (gone : List String) (es : List (CacheEntry α)) :
    without key (apart gone es) = apart gone (without key es) := List.filter_comm ..

/-- A key that is stored under is gone no more; without its entries that makes no difference. -/
theorem apart_without {key : String} (gone : List String) {es : List (CacheEntry α)}
    (h : ∀ e ∈ es, e.key ≠ key) : apart (gone.filter (· ≠ key)) es = apart gone es := by
  refine List.filter_congr fun e he => ?_
  simp [h e he]

/-- **Making room on both sides**, and something more at the end. -/
theorem Lighter.place (h : Lighter family us us' es es') {capacity : Nat} {e : CacheEntry α}
    (he : e.cost ≤ capacity) :
    ∃ front front', without e.key es = front ++ makeRoom capacity e.cost (without e.key es) ∧
      without e.key es' = front' ++ makeRoom capacity e.cost (without e.key es') ∧
      Lighter family (us ++ front.map (·.key)) (us' ++ front'.map (·.key))
        (makeRoom capacity e.cost (without e.key es) ++ [e])
        (makeRoom capacity e.cost (without e.key es') ++ [e]) := by
  obtain ⟨gone, extra, hunder, habsent, rfl, hout⟩ := h
  set row' := without e.key (extra ++ apart gone es) with hrow'
  obtain ⟨front, hfront⟩ := makeRoom_suffix capacity e.cost (without e.key es)
  obtain ⟨front', hfront'⟩ := makeRoom_suffix capacity e.cost row'
  have htotal := total_makeRoom_le he (without e.key es)
  have hkeys : ∀ d ∈ makeRoom capacity e.cost (without e.key es), d.key ≠ e.key := fun d hd =>
    (mem_without.mp ((makeRoom_suffix _ _ _).subset hd)).2
  set rest := makeRoom capacity e.cost (without e.key es) with hrest
  have hsplit : row' = (without e.key extra ++ apart gone front) ++ apart gone rest := by
    rw [hrow', without_append, without_apart, ← hfront, apart_append, List.append_assoc]
  -- What stays of the second row is an end of the first one that can be afforded.
  obtain ⟨extra', hextra'⟩ : apart gone rest <:+ makeRoom capacity e.cost row' := by
    refine makeRoom_longest ⟨_, hsplit.symm⟩ (le_trans ?_ htotal)
    exact Nat.add_le_add_right (total_le_of_sublist List.filter_sublist) _
  have hgone : front' ++ extra' = without e.key extra ++ apart gone front := by
    refine (List.append_left_inj (apart gone rest)).mp ?_
    rw [List.append_assoc, hextra', hfront', hsplit]
  refine ⟨front, front', hfront.symm, hfront'.symm, gone.filter (· ≠ e.key), extra', ?_, ?_, ?_, ?_⟩
  · exact fun key hk => hunder key (List.mem_filter.mp hk).1
  · intro d hd hk
    rcases List.mem_append.mp hd with hd | hd
    · have hmem := (mem_without.mp ((makeRoom_suffix _ _ _).subset hd)).1
      exact habsent d hmem (List.mem_filter.mp hk).1
    · rw [List.mem_singleton.mp hd] at hk
      simpa using (List.mem_filter.mp hk).2
  · have hself : apart (gone.filter (· ≠ e.key)) [e] = [e] := by simp [apart]
    rw [apart_append, hself, apart_without gone hkeys, ← List.append_assoc, hextra']
  · have hmove : us' ++ front'.map (·.key) ++ extra'.map (·.key) =
        us' ++ (without e.key extra).map (·.key) ++ (apart gone front).map (·.key) := by
      rw [List.append_assoc, ← List.map_append, hgone, List.map_append, List.append_assoc]
    have hleft : (outside family (us' ++ (without e.key extra).map (·.key))).Sublist
        (outside family us) :=
      (sublist_outside_filter ..).trans hout
    rw [hmove, outside_append, outside_append family us]
    exact hleft.append ((List.filter_sublist.map _).filter _)

/-- **Looking up what is in the second row**: it is in the first one as well, and moves to the end
of both, or else the first one has nothing under its key. -/
theorem Lighter.use (h : Lighter family us us' es es') {e : CacheEntry α} (he : e ∈ es) :
    (∀ d ∈ es', d.key ≠ e.key) ∧ Lighter family us us' (without e.key es ++ [e]) es' ∨
      e ∈ es' ∧ Lighter family us us' (without e.key es ++ [e]) (without e.key es' ++ [e]) := by
  obtain ⟨gone, extra, hunder, habsent, rfl, hout⟩ := h
  by_cases hk : e.key ∈ gone
  · refine Or.inl ⟨fun d hd hdk => habsent d hd (hdk ▸ hk), gone, extra, hunder, habsent, ?_, hout⟩
    have hself : apart gone [e] = [] := by simp [apart, hk]
    have hout : without e.key (apart gone es) = apart gone es := by
      refine List.filter_eq_self.mpr fun d hd => ?_
      have hd := (List.mem_filter.mp hd).2
      exact decide_eq_true fun hdk => by simp [hdk, hk] at hd
    rw [apart_append, hself, List.append_nil, ← without_apart, hout]
  · have hmem : e ∈ apart gone es := List.mem_filter.mpr ⟨he, by simpa using hk⟩
    refine Or.inr ⟨List.mem_append_right _ hmem, gone, without e.key extra, hunder, ?_, ?_, ?_⟩
    · intro d hd
      rcases List.mem_append.mp hd with hd | hd
      · exact habsent d (mem_without.mp hd).1
      · rwa [List.mem_singleton.mp hd]
    · have hself : apart gone [e] = [e] := by simp [apart, hk]
      rw [apart_append, hself, without_append, without_apart, List.append_assoc]
    · exact (sublist_outside_filter ..).trans hout

/-- Outside the family the first row ends with the second one, -/
theorem Lighter.suffix (h : Lighter family us us' es es') :
    (es.filter fun e => !isUnder family e.key) <:+ es'.filter fun e => !isUnder family e.key := by
  obtain ⟨gone, extra, hunder, -, rfl, -⟩ := h
  have hapart : (apart gone es).filter (fun e => !isUnder family e.key) =
      es.filter fun e => !isUnder family e.key := by
    rw [apart, List.filter_filter]
    refine List.filter_congr fun e _ => ?_
    by_cases hk : e.key ∈ gone
    · simp [hunder e.key hk]
    · simp [hk]
  rw [List.filter_append, hapart]
  exact List.suffix_append _ _

/-- and less has been crowded out of it, in the same order. -/
theorem Lighter.sublist (h : Lighter family us us' es es') :
    (outside family us').Sublist (outside family us) := by
  obtain ⟨gone, extra, -, -, -, hout⟩ := h
  rw [outside_append] at hout
  exact (List.sublist_append_left _ _).trans hout

end Lighter

/-! ## A world beside one whose cache holds more -/

/-- **A world with a lighter cache**, at the same time. -/
structure Lightens (family : String) (hw hv : List (Note α)) (w v : World α) : Prop where
  clock : v.clock = w.clock
  capacity : v.cache.capacity = w.cache.capacity
  retains : v.cache.retains = w.cache.retains
  solvent : w.cache.Solvent
  lighter : v.cache.Solvent
  rows : Lighter family (evicted hw) (evicted hv) (w.cache.live w.clock) (v.cache.live v.clock)

section Lightens

variable {family : String} {hw hv : List (Note α)} {w v : World α}

theorem lightens_forget (hs : w.cache.Solvent) (family : String) :
    Lightens family [] [] w (w.forget family) :=
  ⟨rfl, rfl, rfl, hs, solvent_invalidate hs family, lighter_forget w.clock family w.cache⟩

/-- What crowds nothing out may go unrecorded. -/
theorem Lightens.note (h : Lightens family hw hv w v) {nw nv : List (Note α)}
    (hnw : evicted nw = []) (hnv : evicted nv = []) :
    Lightens family (hw ++ nw) (hv ++ nv) w v := by
  refine ⟨h.clock, h.capacity, h.retains, h.solvent, h.lighter, ?_⟩
  rw [evicted_append, evicted_append, hnw, hnv, List.append_nil, List.append_nil]
  exact h.rows

theorem Lightens.tick (h : Lightens family hw hv w v) {t : Quantity} (ht : w.clock.Le t) :
    Lightens family (hw ++ [.passed w.clock t]) (hv ++ [.passed v.clock t]) { w with clock := t }
      { v with clock := t } := by
  refine Lightens.note (w := { w with clock := t }) (v := { v with clock := t })
    ⟨rfl, h.capacity, h.retains, h.solvent, h.lighter, ?_⟩ rfl rfl
  have hrows := h.rows.filter (·.isLive t)
  rwa [← live_later ht, ← live_later (h.clock ▸ ht)] at hrows

theorem Lightens.sweep (h : Lightens family hw hv w v) : Lightens family hw hv w.sweep v.sweep := by
  refine ⟨h.clock, h.capacity, h.retains, solvent_sweep h.solvent, solvent_sweep h.lighter, ?_⟩
  have hrows := h.rows
  rwa [← live_sweep w.cache, ← live_sweep v.cache] at hrows

theorem Lightens.clear (h : Lightens family hw hv w v) :
    Lightens family (hw ++ [.cleared]) (hv ++ [.cleared]) { w with cache := w.cache.clear }
      { v with cache := v.cache.clear } := by
  refine Lightens.note (w := { w with cache := w.cache.clear })
    (v := { v with cache := v.cache.clear })
    ⟨h.clock, h.capacity, h.retains, solvent_clear _, solvent_clear _, ?_⟩ rfl rfl
  have hrows := h.rows.filter fun _ => false
  rwa [List.filter_false, List.filter_false] at hrows

theorem Lightens.forget (h : Lightens family hw hv w v) (other : String) :
    Lightens family (hw ++ [.forgot other]) (hv ++ [.forgot other]) (w.forget other)
      (v.forget other) := by
  refine Lightens.note (w := w.forget other) (v := v.forget other) ⟨h.clock, h.capacity, h.retains,
    solvent_invalidate h.solvent other, solvent_invalidate h.lighter other, ?_⟩ rfl rfl
  have hrows := h.rows.filter fun e => !isUnder other e.key
  rwa [← live_invalidate, ← live_invalidate] at hrows

/-- What is live after a live entry was looked up. -/
theorem live_look {e : CacheEntry α} (hf : w.cache.find? w.clock e.key = some e) :
    (w.look e.key).cache.live w.clock = without e.key (w.cache.live w.clock) ++ [e] := by
  unfold World.look
  rw [get_of_find?_eq_some hf, live, List.filter_append]
  have hself : [e].filter (·.isLive w.clock) = [e] := by simp [(find?_eq_some hf).2.1]
  rw [hself]
  exact congrArg (· ++ [e]) (List.filter_comm ..)

/-- Looking up a key, if it is not found in the lighter cache only. -/
theorem Lightens.look (h : Lightens family hw hv w v) {key : String}
    (hfound : v.cache.contains v.clock key → w.cache.contains w.clock key) :
    Lightens family hw hv (w.look key) (v.look key) := by
  obtain ⟨now, d⟩ := v
  obtain rfl : now = w.clock := h.clock
  have hrows := h.rows
  have hframe := fun c : Cache α => get_frame c w.clock key
  refine ⟨rfl, (hframe d).2.trans (h.capacity.trans (hframe w.cache).2.symm),
    (hframe d).1.trans (h.retains.trans (hframe w.cache).1.symm), solvent_get h.solvent,
    solvent_get h.lighter, ?_⟩
  cases hf : w.cache.find? w.clock key with
  | none =>
    have hmiss : d.find? w.clock key = none := by
      simpa [contains, hf] using hfound
    have hw : w.look key = w := by rw [World.look, get_of_find?_eq_none hf]
    have hv : World.look ⟨w.clock, d⟩ key = ⟨w.clock, d⟩ := by
      rw [World.look, get_of_find?_eq_none hmiss]
    rwa [hw, hv]
  | some e =>
    obtain ⟨hmem, hl, rfl⟩ := find?_eq_some hf
    have hlive := live_look hf
    rcases hrows.use (mem_live.mpr ⟨hmem, hl⟩) with ⟨hnone, hrows⟩ | ⟨he, hrows⟩
    · have hmiss : World.look ⟨w.clock, d⟩ e.key = ⟨w.clock, d⟩ := look_of_not_mem hnone
      rw [hmiss]
      exact hlive ▸ hrows
    · have hfind : d.find? w.clock e.key = some e := h.lighter.find?_of_mem he
      have hlive' := live_look (w := ⟨w.clock, d⟩) hfind
      rw [← hlive, ← hlive'] at hrows
      exact hrows

/-- Storing a value, if that succeeds. -/
theorem Lightens.stored (h : Lightens family hw hv w v) {key : String} {value : Option α}
    {lifetime : Lifetime} {cost : Cost} {kept kept' : Bool} {c d : Cache α}
    (hc : w.cache.set w.clock key value lifetime cost = .ok (kept, c))
    (hd : v.cache.set v.clock key value lifetime cost = .ok (kept', d))
    (hrows : Lighter family (evicted hw ++ evicted (storeNotes w key value lifetime cost))
      (evicted hv ++ evicted (storeNotes v key value lifetime cost)) (c.live w.clock)
      (d.live v.clock)) :
    Lightens family (hw ++ storeNotes w key value lifetime cost)
      (hv ++ storeNotes v key value lifetime cost) (w.put key value lifetime cost)
      (v.put key value lifetime cost) := by
  obtain ⟨-, hretains, hcapacity⟩ := set_frame hc
  obtain ⟨-, hretains', hcapacity'⟩ := set_frame hd
  rw [← evicted_append, ← evicted_append] at hrows
  rw [put_of_ok hc, put_of_ok hd]
  exact ⟨h.clock, hcapacity'.trans (h.capacity.trans hcapacity.symm),
    hretains'.trans (h.retains.trans hretains.symm), solvent_set h.solvent hc,
    solvent_set h.lighter hd, hrows⟩

/-- Storing a value that is not kept, so that only what was stored before goes. -/
theorem Lightens.lost (h : Lightens family hw hv w v) {key : String} {value : Option α}
    {lifetime : Lifetime} {cost : Cost} {kept kept' : Bool} {c d : Cache α}
    (hc : w.cache.set w.clock key value lifetime cost = .ok (kept, c))
    (hd : v.cache.set v.clock key value lifetime cost = .ok (kept', d))
    (hlc : c.live w.clock = without key (w.cache.live w.clock))
    (hld : d.live v.clock = without key (v.cache.live v.clock)) :
    Lightens family (hw ++ storeNotes w key value lifetime cost)
      (hv ++ storeNotes v key value lifetime cost) (w.put key value lifetime cost)
      (v.put key value lifetime cost) := by
  refine h.stored hc hd ?_
  have hnw := evicted_storeNotes h.solvent hc rfl (hlc ▸ without_without key _) (Or.inl rfl)
  have hnv := evicted_storeNotes h.lighter hd rfl (hld ▸ without_without key _) (Or.inl rfl)
  rw [hnw, hnv, hlc, hld, List.map_nil, List.append_nil, List.append_nil]
  exact h.rows.filter _

/-- **Storing a value.** -/
theorem Lightens.put (h : Lightens family hw hv w v) (key : String) (value : Option α)
    (lifetime : Lifetime) (cost : Cost) :
    Lightens family (hw ++ storeNotes w key value lifetime cost)
      (hv ++ storeNotes v key value lifetime cost) (w.put key value lifetime cost)
      (v.put key value lifetime cost) := by
  obtain ⟨now, d⟩ := v
  obtain rfl : now = w.clock := h.clock
  have hrows := h.rows
  cases storing w.cache.capacity w.cache.retains w.clock key value lifetime cost with
  | fails fault hset =>
    have hsetw := hset w.cache rfl rfl
    have hsetd := hset d h.capacity h.retains
    rw [put_of_error hsetw, put_of_error (w := ⟨w.clock, d⟩) hsetd]
    exact h.note (evicted_storeNotes_of_error hsetw)
      (evicted_storeNotes_of_error (w := ⟨w.clock, d⟩) hsetd)
  | ignores hset =>
    have hsetw := hset w.cache rfl rfl
    have hsetd := hset d h.capacity h.retains
    have hnw := evicted_storeNotes h.solvent hsetw rfl rfl (Or.inl rfl)
    have hnd := evicted_storeNotes (w := ⟨w.clock, d⟩) h.lighter hsetd rfl rfl (Or.inl rfl)
    rw [put_of_ok hsetw, put_of_ok (w := ⟨w.clock, d⟩) hsetd]
    exact h.note hnw hnd
  | refuses hset =>
    exact h.lost (hset w.cache rfl rfl) (hset d h.capacity h.retains) live_dropLive live_dropLive
  | expires hset =>
    exact h.lost (hset w.cache rfl rfl) (hset d h.capacity h.retains) live_drop live_drop
  | places e hk hl hcost hcap hset =>
    subst hk hcost
    have hsetw := hset w.cache rfl rfl
    have hsetd := hset d h.capacity h.retains
    have hcapacity : d.capacity = w.cache.capacity := h.capacity
    obtain ⟨front, front', hfront, hfront', hrows⟩ := h.rows.place hcap
    -- Something is crowded out only if not all others can be afforded.
    have hfull : ∀ {es front : List (CacheEntry α)},
        es = front ++ makeRoom w.cache.capacity e.cost es → front = [] ∨
          ∃ n, Cost.units e.cost = .units n ∧ ¬(total es : Int) + n ≤ w.cache.capacity := by
      intro es front hsplit
      by_cases hroom : total es + e.cost ≤ w.cache.capacity
      · rw [makeRoom_eq_self hroom] at hsplit
        exact Or.inl (List.self_eq_append_left.mp hsplit)
      · exact Or.inr ⟨e.cost, rfl, by omega⟩
    have hnw := evicted_storeNotes h.solvent hsetw hfront (without_place hl) (hfull hfront)
    have hnd := evicted_storeNotes (w := ⟨w.clock, d⟩) h.lighter hsetd hfront'
      (hcapacity ▸ without_place hl) (hcapacity ▸ hfull hfront')
    refine h.stored hsetw hsetd ?_
    rw [hnw, hnd, live_place hl, live_place hl, hcapacity]
    exact hrows

end Lightens

/-! ## Runs in step -/

/-- **Two worlds go in step** in a run: nothing is found in the second one only.  A load is no step
of its own, but a lookup and, if need be, a store. -/
def InStep (w v : World α) : List (Action α) → Prop
  | [] => True
  | a :: as => (match a with
      | .get key => v.cache.contains v.clock key → w.cache.contains w.clock key
      | .getOrLoad .. => False
      | _ => True) ∧ InStep (perform w a).2 (perform v a).2 as

section Runs

variable {family : String} {hw hv : List (Note α)} {w v : World α}

/-- **One action keeps the cache lighter**, -/
theorem Lightens.perform (h : Lightens family hw hv w v) {a : Action α} (hs : InStep w v [a])
    (ho : Onward (notes w a)) :
    Lightens family (hw ++ notes w a) (hv ++ notes v a) (perform w a).2 (perform v a).2 := by
  cases a with
  | advance seconds =>
    obtain ⟨now, d⟩ := v
    obtain rfl : now = w.clock := h.clock
    simp only [notes, Cache.perform] at ho ⊢
    cases hx : Clock.advance w.clock seconds with
    | error fault => simpa using h
    | ok clock =>
      rw [hx] at ho
      exact h.tick (ho _ _ List.mem_cons_self)
  | get key => simpa [notes, Cache.perform, World.look] using h.look hs.1
  | set key value lifetime cost =>
    rw [perform_set, perform_set]
    exact h.put key value lifetime cost
  | getOrLoad => exact absurd hs.1 id
  | invalidate other => exact h.forget other
  | clear => exact h.clear
  | size | count => simpa [notes, Cache.perform] using h.sweep
  | contains | capacity => simpa [notes, Cache.perform] using h

/-- **and so does every run** in which time does not go back. -/
theorem Lightens.after (h : Lightens family hw hv w v) {as : List (Action α)}
    (ho : Onward (record w as)) (hs : InStep w v as) :
    Lightens family (hw ++ record w as) (hv ++ record v as) (w.after as) (v.after as) := by
  induction as generalizing hw hv w v with
  | nil => simpa [record, World.after] using h
  | cons a as ih =>
    have hstep := h.perform ⟨hs.1, trivial⟩ ho.left
    have hrest := ih hstep ho.right hs.2
    simpa only [record, World.after, List.append_assoc] using hrest

end Runs

end Gazetteer.Cache
