import Gazetteer.Proofs.Cache.Course
import Mathlib.Data.List.Induction

/-!
# The record of a cache

The record of a run tells that time passed, what was stored and when, whose room was taken, and what
was invalidated.  A cache answers by the record, and by nothing else: a value stands under a key
from the moment it is stored until something ends it, and it is told as long as its lifetime,
counted from that moment, is not over.  Looking a value up is not on the record, so it does not
prolong anything; a store that is refused for its cost, or whose lifetime is over at once, is on the
record, so it ends what stood before.

* `Stands`: a deposit is on the record, and nothing after it has ended it; there is one at most;
* `Holds`: what is live under a key, and how each operation changes it (`holds_set`);
* `Faithful`: what is live is what stands and is not over, which every change keeps
  (`kept_faithful`);
* `tells_iff_stands`: a value is told exactly if it stands and its time is not over.
-/

namespace Gazetteer.Cache

open Number

variable {α : Type}

/-! ## What stands -/

/-- Whether a note ends what stood under a key. -/
def Note.Ends (key : String) : Note α → Prop
  | .passed .. => False
  | .stored d => d.key = key
  | .crowdedOut k => k = key
  | .forgot family => isUnder family key
  | .cleared => True

/-- **A deposit stands under a key**: it is on the record, and nothing after it has ended it. -/
def Stands (key : String) (d : Deposit α) (h : List (Note α)) : Prop :=
  ∃ before after, h = before ++ .stored d :: after ∧ d.key = key ∧ ∀ n ∈ after, ¬n.Ends key

section Stands

variable {key : String} {d d' : Deposit α} {h h' : List (Note α)} {n : Note α}

theorem Stands.mem (hs : Stands key d h) : .stored d ∈ h := by
  obtain ⟨before, after, rfl, -⟩ := hs
  simp

theorem stands_singleton : Stands key d [n] ↔ n = .stored d ∧ d.key = key := by
  unfold Stands
  constructor
  · rintro ⟨before, after, heq, hk, -⟩
    obtain ⟨rfl, hn⟩ | ⟨m, ms, rfl⟩ : before = [] ∧ [n] = .stored d :: after ∨
        ∃ m ms, before = m :: ms := by
      cases before with
      | nil => exact Or.inl ⟨rfl, heq⟩
      | cons m ms => exact Or.inr ⟨m, ms, rfl⟩
    · exact ⟨(List.cons.inj hn).1, hk⟩
    · simp at heq
  · rintro ⟨rfl, hk⟩
    exact ⟨[], [], rfl, hk, by simp⟩

/-- **What stands in the end** was deposited late, or stood before and was not ended since. -/
theorem stands_append : Stands key d (h ++ h') ↔
    Stands key d h' ∨ Stands key d h ∧ ∀ n ∈ h', ¬n.Ends key := by
  constructor
  · rintro ⟨before, after, heq, hk, hends⟩
    obtain ⟨mid, rfl, rfl⟩ | ⟨mid, rfl, hmid⟩ := List.append_eq_append_iff.mp heq
    · exact Or.inl ⟨mid, after, rfl, hk, hends⟩
    · cases mid with
      | nil => exact Or.inl ⟨[], after, hmid.symm, hk, hends⟩
      | cons m mid =>
        obtain ⟨rfl, rfl⟩ := List.cons.inj hmid
        refine Or.inr ⟨⟨before, mid, rfl, hk, fun n hn => hends n ?_⟩, fun n hn => hends n ?_⟩
        · exact List.mem_append_left _ hn
        · exact List.mem_append_right _ hn
  · rintro (⟨before, after, rfl, hk, hends⟩ | ⟨⟨before, after, rfl, hk, hends⟩, hlate⟩)
    · exact ⟨h ++ before, after, by simp, hk, hends⟩
    · refine ⟨before, after ++ h', by simp, hk, fun n hn => ?_⟩
      exact (List.mem_append.mp hn).elim (hends n) (hlate n)

theorem stands_append_note (hn : ∀ d, n ≠ .stored d) :
    Stands key d (h ++ [n]) ↔ Stands key d h ∧ ¬n.Ends key := by
  rw [stands_append, stands_singleton]
  simp [hn d]

theorem stands_append_crowdedOut {keys : List String} :
    Stands key d (h ++ keys.map .crowdedOut) ↔ Stands key d h ∧ key ∉ keys := by
  have hnone : ¬Stands key d (keys.map .crowdedOut) := fun hs => by simpa using hs.mem
  rw [stands_append, or_iff_right hnone]
  refine and_congr_right fun _ => ⟨fun hn hmem => ?_, fun hn n hmem => ?_⟩
  · exact hn _ (List.mem_map_of_mem hmem) rfl
  · obtain ⟨k, hk, rfl⟩ := List.mem_map.mp hmem
    exact fun he => hn (he ▸ hk)

theorem stands_append_stored : Stands key d (h ++ [.stored d']) ↔
    d = d' ∧ d'.key = key ∨ Stands key d h ∧ d'.key ≠ key := by
  rw [stands_append, stands_singleton]
  simp only [List.mem_singleton, forall_eq, Note.Ends, Note.stored.injEq]
  exact or_congr_left ⟨fun ⟨he, hk⟩ => ⟨he.symm, he ▸ hk⟩, fun ⟨he, hk⟩ => ⟨he.symm, he ▸ hk⟩⟩

/-- **At most one deposit stands under a key.** -/
theorem Stands.unique (hs : Stands key d h) (hs' : Stands key d' h) : d = d' := by
  induction h using List.reverseRecOn with
  | nil =>
    obtain ⟨before, after, heq, -⟩ := hs
    simp at heq
  | append_singleton h n ih =>
    rw [stands_append, stands_singleton] at hs hs'
    rcases hs with ⟨rfl, hk⟩ | ⟨hs, hn⟩
    · rcases hs' with ⟨he, -⟩ | ⟨-, hn⟩
      · cases he
        rfl
      · exact absurd hk (hn _ (List.mem_singleton_self _))
    · rcases hs' with ⟨rfl, hk⟩ | ⟨hs', -⟩
      · exact absurd hk (hn _ (List.mem_singleton_self _))
      · exact ih hs hs'

end Stands

/-! ## What is live -/

/-- **There is a live entry under a key**, with this value and this end. -/
def Holds (now : Quantity) (c : Cache α) (key : String) (v : Option α) (x : Quantity) : Prop :=
  ∃ e ∈ c.live now, e.key = key ∧ e.value = v ∧ e.expiry = x

section Holds

variable {now : Quantity} {c c' : Cache α} {key k : String} {value v : Option α} {x : Quantity}

theorem holds_iff : Holds now c key v x ↔
    ∃ e ∈ c.entries, e.key = key ∧ e.value = v ∧ e.expiry = x ∧ now.lt x := by
  unfold Holds
  simp only [mem_live]
  constructor
  · rintro ⟨e, ⟨he, hl⟩, rfl, rfl, rfl⟩
    exact ⟨e, he, rfl, rfl, rfl, hl⟩
  · rintro ⟨e, he, rfl, rfl, rfl, hl⟩
    exact ⟨e, ⟨he, hl⟩, rfl, rfl, rfl⟩

theorem Holds.mem_keys (h : Holds now c k v x) : k ∈ c.keys now := by
  obtain ⟨e, he, rfl, -⟩ := h
  exact List.mem_map_of_mem he

theorem contains_iff : c.contains now k ↔ ∃ v x, Holds now c k v x := by
  unfold contains find?
  rw [List.find?_isSome]
  simp only [Holds, decide_eq_true_eq]
  constructor
  · rintro ⟨e, he, rfl⟩
    exact ⟨e.value, e.expiry, e, he, rfl, rfl, rfl⟩
  · rintro ⟨v, x, e, he, rfl, -⟩
    exact ⟨e, he, rfl⟩

theorem holds_later {t : Quantity} (h : now.Le t) :
    Holds t c k v x ↔ Holds now c k v x ∧ t.lt x := by
  simp only [holds_iff]
  constructor
  · rintro ⟨e, he, hk, hv, hx, hl⟩
    exact ⟨⟨e, he, hk, hv, hx, Quantity.lt_of_le_of_lt h hl⟩, hl⟩
  · rintro ⟨⟨e, he, hk, hv, hx, -⟩, hl⟩
    exact ⟨e, he, hk, hv, hx, hl⟩

theorem holds_sweep : Holds now (c.sweep now) k v x ↔ Holds now c k v x := by
  simp only [holds_iff, mem_sweep]
  constructor
  · rintro ⟨e, ⟨he, -⟩, hr⟩
    exact ⟨e, he, hr⟩
  · rintro ⟨e, he, hk, hv, rfl, hl⟩
    exact ⟨e, ⟨he, hl⟩, hk, hv, rfl, hl⟩

theorem holds_invalidate {family : String} : Holds now (c.invalidate now family).2 k v x ↔
    Holds now c k v x ∧ ¬isUnder family k := by
  simp only [holds_iff, mem_invalidate]
  constructor
  · rintro ⟨e, ⟨he, hn⟩, rfl, hv, rfl, hl⟩
    exact ⟨⟨e, he, rfl, hv, rfl, hl⟩, fun hu => hn ⟨hu, hl⟩⟩
  · rintro ⟨⟨e, he, rfl, hv, rfl, hl⟩, hn⟩
    exact ⟨e, ⟨he, fun hu => hn hu.1⟩, rfl, hv, rfl, hl⟩

theorem not_holds_clear : ¬Holds now c.clear k v x := by
  simp [Holds, clear, live]

theorem holds_dropLive : Holds now (c.dropLive now key) k v x ↔ k ≠ key ∧ Holds now c k v x := by
  simp only [holds_iff, dropLive, List.mem_filter]
  constructor
  · rintro ⟨e, ⟨he, hn⟩, rfl, hv, rfl, hl⟩
    refine ⟨fun hk => ?_, e, he, rfl, hv, rfl, hl⟩
    have hlive : e.isLive now = true := hl
    simp [hk, hlive] at hn
  · rintro ⟨hk, e, he, rfl, hv, rfl, hl⟩
    exact ⟨e, ⟨he, by simp [hk]⟩, rfl, hv, rfl, hl⟩

theorem holds_drop : Holds now (c.drop key) k v x ↔ k ≠ key ∧ Holds now c k v x := by
  simp only [holds_iff, drop, mem_without]
  constructor
  · rintro ⟨e, ⟨he, hn⟩, rfl, hr⟩
    exact ⟨hn, e, he, rfl, hr⟩
  · rintro ⟨hk, e, he, rfl, hr⟩
    exact ⟨e, ⟨he, hk⟩, rfl, hr⟩

theorem not_mem_crowdedOut {cost : Int} (h : Holds now c' k v x) :
    k ∉ crowdedOut now key cost c c' := by
  have hin : c'.contains now k := contains_iff.mpr ⟨v, x, h⟩
  unfold crowdedOut
  split
  · exact List.not_mem_nil
  · simp [hin]

/-- Under the key of the entry that is placed there is that entry. -/
theorem holds_place_self {e : CacheEntry α} :
    Holds now (c.place now e) e.key v x ↔ v = e.value ∧ x = e.expiry ∧ now.lt x := by
  simp only [holds_iff, place]
  constructor
  · rintro ⟨d, hd, hk, rfl, rfl, hl⟩
    rcases List.mem_append.mp hd with hd | hd
    · have hmem := (makeRoom_suffix c.capacity e.cost (without e.key (c.live now))).subset hd
      exact absurd hk (mem_without.mp hmem).2
    · rw [List.mem_singleton.mp hd] at hl ⊢
      exact ⟨rfl, rfl, hl⟩
  · rintro ⟨rfl, rfl, hl⟩
    exact ⟨e, by simp, rfl, rfl, rfl, hl⟩

/-- Under any other key there is what was there, unless it had to go. -/
theorem holds_place_of_ne {e : CacheEntry α} (hk : k ≠ e.key)
    (hfun : ∀ {v' x'}, Holds now c k v x → Holds now c k v' x' → v = v' ∧ x = x') :
    Holds now (c.place now e) k v x ↔
      Holds now c k v x ∧ k ∉ crowdedOut now e.key e.cost c (c.place now e) := by
  have hsub : ∀ {v' x'}, Holds now (c.place now e) k v' x' → Holds now c k v' x' := by
    intro v' x' h
    obtain ⟨d, hd, hdk, hr⟩ := holds_iff.mp h
    rcases mem_of_mem_place hd with hd | rfl
    · exact holds_iff.mpr ⟨d, hd, hdk, hr⟩
    · exact absurd hdk.symm hk
  constructor
  · intro h
    exact ⟨hsub h, not_mem_crowdedOut h⟩
  · rintro ⟨h, hout⟩
    unfold crowdedOut at hout
    split at hout
    · next hroom =>
      -- Nothing had to go.
      obtain ⟨d, hd, rfl, rfl, rfl⟩ := h
      have hall : makeRoom c.capacity e.cost (without e.key (c.live now)) =
          without e.key (c.live now) := makeRoom_eq_self (by omega)
      refine ⟨d, mem_live.mpr ⟨?_, (mem_live.mp hd).2⟩, rfl, rfl, rfl⟩
      unfold place
      rw [hall]
      exact List.mem_append_left _ (mem_without.mpr ⟨hd, hk⟩)
    · -- Something is still there under the key, and there was only one thing.
      have hin : (c.place now e).contains now k := by
        by_contra hn
        exact hout (List.mem_filter.mpr ⟨h.mem_keys, by simp [hk, hn]⟩)
      obtain ⟨v', x', h'⟩ := contains_iff.mp hin
      obtain ⟨rfl, rfl⟩ := hfun h (hsub h')
      exact h'

/-- Getting a value moves its entry, which changes nothing as long as it is the only one. -/
theorem holds_get
    (hfun : ∀ {k v x v' x'}, Holds now c k v x → Holds now c k v' x' → v = v' ∧ x = x') :
    Holds now (c.get now key).2 k v x ↔ Holds now c k v x := by
  cases hf : c.find? now key with
  | none => rw [get_of_find?_eq_none hf]
  | some e =>
    obtain ⟨he, hl, hek⟩ := find?_eq_some hf
    rw [get_of_find?_eq_some hf]
    constructor
    · intro h
      obtain ⟨d, hd, hr⟩ := holds_iff.mp h
      rcases List.mem_append.mp hd with hd | hd
      · exact holds_iff.mpr ⟨d, (mem_without.mp hd).1, hr⟩
      · rw [List.mem_singleton.mp hd] at hr
        exact holds_iff.mpr ⟨e, he, hr⟩
    · intro h
      obtain ⟨d, hd, rfl, rfl, rfl, hdl⟩ := holds_iff.mp h
      by_cases hk : d.key = key
      · have hsame : Holds now c d.key e.value e.expiry :=
          holds_iff.mpr ⟨e, he, by rw [hek, hk], rfl, rfl, hl⟩
        obtain ⟨hv, hx⟩ := hfun h hsame
        rw [hv, hx]
        exact holds_iff.mpr ⟨e, List.mem_append_right _ (List.mem_singleton_self e),
          by rw [hek, hk], rfl, rfl, hl⟩
      · exact holds_iff.mpr
          ⟨d, List.mem_append_left _ (mem_without.mpr ⟨hd, hk⟩), rfl, rfl, rfl, hdl⟩

/-- **What is live after a store**: what was stored, if it can be afforded and is not over at once,
and under the other keys what was there and did not have to go. -/
theorem holds_set {n : Int} {lifetime : Lifetime} {kept : Bool} (hr : c.retains)
    (hfun : ∀ {k v x v' x'}, Holds now c k v x → Holds now c k v' x' → v = v' ∧ x = x')
    (hs : c.set now key value lifetime (.units n) = .ok (kept, c')) :
    Holds now c' k v x ↔
      k = key ∧ v = value ∧ n ≤ c.capacity ∧ lifetime.expiry now = .ok x ∧ now.lt x ∨
        k ≠ key ∧ Holds now c k v x ∧ k ∉ crowdedOut now key n c c' := by
  have hstore : c.store now key value lifetime n = .ok (kept, c') := by
    simpa [set, hr] using hs
  rcases store_cases hstore with ⟨hcap, rfl⟩ | ⟨expiry, hcap, hx, ⟨hover, rfl⟩ | ⟨hl, hn, rfl⟩⟩
  · rw [holds_dropLive]
    constructor
    · rintro ⟨hk, h⟩
      exact Or.inr ⟨hk, h, not_mem_crowdedOut (holds_dropLive.mpr ⟨hk, h⟩)⟩
    · rintro (⟨-, -, hle, -⟩ | ⟨hk, h, -⟩)
      · omega
      · exact ⟨hk, h⟩
  · rw [holds_drop]
    constructor
    · rintro ⟨hk, h⟩
      exact Or.inr ⟨hk, h, not_mem_crowdedOut (holds_drop.mpr ⟨hk, h⟩)⟩
    · rintro (⟨-, -, -, hx', hl⟩ | ⟨hk, h, -⟩)
      · rw [hx] at hx'
        cases hx'
        exact absurd hl hover
      · exact ⟨hk, h⟩
  · by_cases hk : k = key
    · subst hk
      rw [holds_place_self (e := ⟨k, value, expiry, n.toNat⟩)]
      constructor
      · rintro ⟨rfl, rfl, -⟩
        exact Or.inl ⟨rfl, rfl, hcap, hx, hl⟩
      · rintro (⟨-, rfl, -, hx', -⟩ | ⟨hne, -⟩)
        · rw [hx] at hx'
          cases hx'
          exact ⟨rfl, rfl, hl⟩
        · exact absurd rfl hne
    · rw [holds_place_of_ne hk hfun, Int.toNat_of_nonneg hn]
      simp only [hk, false_and, false_or, ne_eq, not_false_eq_true, true_and]

end Holds

/-! ## The record tells what is live -/

/-- A deposit that can be afforded is kept until its lifetime is over. -/
def Deposit.KeptUntil (capacity : Nat) (d : Deposit α) (x : Quantity) : Prop :=
  d.cost ≤ capacity ∧ d.lifetime.expiry d.time = .ok x ∧ d.time.lt x

theorem Deposit.KeptUntil.unique {capacity : Nat} {d : Deposit α} {x y : Quantity}
    (h : d.KeptUntil capacity x) (h' : d.KeptUntil capacity y) : x = y :=
  Except.ok.inj (h.2.1.symm.trans h'.2.1)

/-- **The record tells what is live**: what stands and is not over. -/
structure Faithful (capacity : Nat) (h : List (Note α)) (w : World α) : Prop where
  retains : w.cache.retains
  capacity_eq : w.cache.capacity = capacity
  number : w.clock.isNumber
  timely : ∀ d, .stored d ∈ h → d.time.Le w.clock
  holds_iff : ∀ key v x, Holds w.clock w.cache key v x ↔
    ∃ d, Stands key d h ∧ d.KeptUntil capacity x ∧ d.value = v ∧ w.clock.lt x

section Steps

variable {capacity : Nat} {h : List (Note α)} {w : World α} {key : String}

theorem faithful_empty {clock : Quantity} (hc : clock.isNumber) :
    Faithful capacity ([] : List (Note α)) ⟨clock, .empty capacity true⟩ where
  retains := rfl
  capacity_eq := rfl
  number := hc
  timely := by simp
  holds_iff key v x := by
    constructor
    · rintro ⟨e, he, -⟩
      cases he
    · rintro ⟨d, hs, -⟩
      exact absurd hs.mem List.not_mem_nil

/-- There is one live value under a key at most. -/
theorem Faithful.unique (hf : Faithful capacity h w) {v v' : Option α} {x x' : Quantity}
    (hv : Holds w.clock w.cache key v x) (hv' : Holds w.clock w.cache key v' x') :
    v = v' ∧ x = x' := by
  obtain ⟨d, hs, hk, rfl, -⟩ := (hf.holds_iff key v x).mp hv
  obtain ⟨d', hs', hk', rfl, -⟩ := (hf.holds_iff key v' x').mp hv'
  obtain rfl := hs.unique hs'
  exact ⟨rfl, hk.unique hk'⟩

theorem Faithful.tick (hf : Faithful capacity h w) {t : Quantity} (ht : w.clock.Le t) :
    Faithful capacity (h ++ [.passed w.clock t]) { w with clock := t } where
  retains := hf.retains
  capacity_eq := hf.capacity_eq
  number := ht.2.1
  timely d hd := by
    have hmem : .stored d ∈ h := by simpa using hd
    exact Quantity.le_trans (hf.timely d hmem) ht
  holds_iff key v x := by
    have hlate : ∀ d : Deposit α, Note.passed w.clock t ≠ .stored d := by simp
    rw [holds_later ht, hf.holds_iff]
    simp only [stands_append_note hlate, Note.Ends]
    constructor
    · rintro ⟨⟨d, hs, hk, hv, -⟩, hl⟩
      exact ⟨d, ⟨hs, not_false⟩, hk, hv, hl⟩
    · rintro ⟨d, ⟨hs, -⟩, hk, hv, hl⟩
      exact ⟨⟨d, hs, hk, hv, Quantity.lt_of_le_of_lt ht hl⟩, hl⟩

/-- What changes nothing that is live may go unrecorded. -/
theorem Faithful.of_holds_iff (hf : Faithful capacity h w) {c : Cache α}
    (hr : c.retains = w.cache.retains) (hc : c.capacity = w.cache.capacity)
    (hh : ∀ key v x, Holds w.clock c key v x ↔ Holds w.clock w.cache key v x) :
    Faithful capacity h { w with cache := c } where
  retains := hr.trans hf.retains
  capacity_eq := hc.trans hf.capacity_eq
  number := hf.number
  timely := hf.timely
  holds_iff key v x := (hh key v x).trans (hf.holds_iff key v x)

theorem Faithful.look (hf : Faithful capacity h w) (key : String) :
    Faithful capacity h { w with cache := (w.cache.get w.clock key).2 } := by
  obtain ⟨hretains, hcapacity⟩ := get_frame w.cache w.clock key
  exact hf.of_holds_iff hretains hcapacity fun _ _ _ => holds_get hf.unique

theorem Faithful.sweep (hf : Faithful capacity h w) : Faithful capacity h w.sweep :=
  hf.of_holds_iff rfl rfl fun _ _ _ => holds_sweep

/-- A note that stores nothing and tells what is no longer live. -/
theorem Faithful.lose (hf : Faithful capacity h w) {n : Note α} {c : Cache α}
    (hn : ∀ d, n ≠ .stored d)
    (hr : c.retains = w.cache.retains) (hc : c.capacity = w.cache.capacity)
    (hh : ∀ key v x, Holds w.clock c key v x ↔ Holds w.clock w.cache key v x ∧ ¬n.Ends key) :
    Faithful capacity (h ++ [n]) { w with cache := c } where
  retains := hr.trans hf.retains
  capacity_eq := hc.trans hf.capacity_eq
  number := hf.number
  timely d hd := by
    rcases List.mem_append.mp hd with hd | hd
    · exact hf.timely d hd
    · exact absurd (List.mem_singleton.mp hd).symm (hn d)
  holds_iff key v x := by
    rw [hh, hf.holds_iff]
    simp only [stands_append_note hn]
    constructor
    · rintro ⟨⟨d, hs, hr⟩, hne⟩
      exact ⟨d, ⟨hs, hne⟩, hr⟩
    · rintro ⟨d, ⟨hs, hne⟩, hr⟩
      exact ⟨⟨d, hs, hr⟩, hne⟩

theorem Faithful.forget (hf : Faithful capacity h w) (family : String) :
    Faithful capacity (h ++ [.forgot family])
      { w with cache := (w.cache.invalidate w.clock family).2 } :=
  hf.lose (by simp) rfl rfl fun _ _ _ => holds_invalidate

theorem Faithful.clear (hf : Faithful capacity h w) :
    Faithful capacity (h ++ [.cleared]) { w with cache := w.cache.clear } :=
  hf.lose (by simp) rfl rfl fun _ _ _ =>
    ⟨fun hh => absurd hh not_holds_clear, fun hh => absurd trivial hh.2⟩

/-- **A store fails and goes unrecorded, or it is on the record**, together with what had to go for
it. -/
theorem put_cases (hr : w.cache.retains) (key : String) (value : Option α) (lifetime : Lifetime)
    (cost : Cost) :
    (storeNotes w key value lifetime cost = [] ∧ w.put key value lifetime cost = w) ∨
    ∃ n kept c, w.cache.set w.clock key value lifetime (.units n) = .ok (kept, c) ∧
      storeNotes w key value lifetime cost = .stored ⟨w.clock, key, value, lifetime, n⟩ ::
        (crowdedOut w.clock key n w.cache c).map .crowdedOut ∧
      w.put key value lifetime cost = { w with cache := c } := by
  cases cost with
  | improper kind =>
    have hfail : w.cache.set w.clock key value lifetime (.improper kind) =
        .error (.improperCost kind) := by
      simp [set, hr]
    exact Or.inl ⟨rfl, by simp [World.put, hfail]⟩
  | units n =>
    cases hs : w.cache.set w.clock key value lifetime (.units n) with
    | error fault => exact Or.inl ⟨by simp [storeNotes, hs], by simp [World.put, hs]⟩
    | ok r => exact Or.inr ⟨n, r.1, r.2, hs, by simp [storeNotes, hs], by simp [World.put, hs]⟩

theorem Faithful.put (hf : Faithful capacity h w) (value : Option α) (lifetime : Lifetime)
    (cost : Cost) :
    Faithful capacity (h ++ storeNotes w key value lifetime cost)
      (w.put key value lifetime cost) := by
  rcases put_cases hf.retains key value lifetime cost with
    ⟨hnotes, hput⟩ | ⟨n, kept, c, hs, hnotes, hput⟩
  · rwa [hnotes, hput, List.append_nil]
  have hnow : w.clock.Le w.clock := Quantity.le_iff.mpr ⟨hf.number, hf.number, le_rfl⟩
  have hframe := set_frame hs
  rw [hnotes, hput, List.append_cons]
  refine ⟨hframe.2.1.trans hf.retains, hframe.2.2.trans hf.capacity_eq, hf.number, ?_, ?_⟩
  · intro d hd
    have hd : .stored d ∈ h ∨ d = ⟨w.clock, key, value, lifetime, n⟩ := by simpa using hd
    rcases hd with hd | rfl
    · exact hf.timely d hd
    · exact hnow
  · intro k v x
    rw [holds_set hf.retains hf.unique hs, hf.holds_iff, hf.capacity_eq]
    simp only [stands_append_crowdedOut, stands_append_stored]
    constructor
    · rintro (⟨rfl, rfl, hcap, hx, hl⟩ | ⟨hk, ⟨d, hd, hr⟩, hout⟩)
      · have hself : Holds w.clock c k v x :=
          (holds_set hf.retains hf.unique hs).mpr
            (Or.inl ⟨rfl, rfl, hf.capacity_eq ▸ hcap, hx, hl⟩)
        exact ⟨_, ⟨Or.inl ⟨rfl, rfl⟩, not_mem_crowdedOut hself⟩, ⟨hcap, hx, hl⟩, rfl, hl⟩
      · exact ⟨d, ⟨Or.inr ⟨hd, hk.symm⟩, hout⟩, hr⟩
    · rintro ⟨d, ⟨⟨rfl, rfl⟩ | ⟨hd, hk⟩, hout⟩, hkept, hv, hl⟩
      · exact Or.inl ⟨rfl, hv.symm, hkept.1, hkept.2.1, hl⟩
      · exact Or.inr ⟨hk.symm, ⟨d, hd, hkept, hv, hl⟩, hout⟩

/-- **All changes keep the record faithful.** -/
theorem kept_faithful : Kept (Faithful (α := α) capacity) where
  tick hf ht := hf.tick ht
  look hf key := hf.look key
  sweep hf := hf.sweep
  put hf _ value lifetime cost := hf.put value lifetime cost
  forget hf family := hf.forget family
  clear hf := hf.clear

end Steps

/-! ## What is told -/

/-- The end of a lifetime is computed exactly. -/
def EndsExactly (now seconds : Quantity) : Prop :=
  ∃ x, now.add? seconds = some x ∧ x.isNumber ∧ x.level = now.level + seconds.level

/-- On whole seconds it is. -/
theorem endsExactly_whole (m n : Int) : EndsExactly (.whole m) (.whole n) :=
  ⟨.whole (m + n), rfl, rfl, Quantity.level_whole_add m n⟩

/-- All ends of lifetimes that have to be computed are computed exactly. -/
def Exact (capacity : Nat) (h : List (Note α)) : Prop :=
  ∀ (d : Deposit α) (n : Quantity),
    .stored d ∈ h → d.cost ≤ capacity → d.lifetime = .seconds n → EndsExactly d.time n

section Telling

variable {capacity : Nat} {d : Deposit α} {now : Quantity} {w : World α} {key : String}

/-- A lifetime that is positive and not over, counted from the moment of the deposit. -/
theorem keptUntil_iff (ht : d.time.Le now)
    (hx : ∀ n, d.lifetime = .seconds n → d.cost ≤ capacity → EndsExactly d.time n) :
    (∃ x, d.KeptUntil capacity x ∧ now.lt x) ↔
      d.cost ≤ capacity ∧ ∃ n, d.lifetime = .seconds n ∧
        0 < n.level ∧ now.level < d.time.level + n.level := by
  obtain ⟨hnum, hnow, hle⟩ := Quantity.le_iff.mp ht
  constructor
  · rintro ⟨x, ⟨hcap, hend, hl⟩, hlate⟩
    cases hlife : d.lifetime with
    | improper kind => rw [hlife] at hend; cases hend
    | seconds n =>
      obtain ⟨y, hadd, -, hy⟩ := hx n hlife hcap
      have hxy : x = y := by
        rw [hlife] at hend
        simpa [Lifetime.expiry, Clock.advance, hadd, Except.mapError, eq_comm] using hend
      subst hxy
      have hlt : d.time.level < d.time.level + n.level := hy ▸ (Quantity.lt_iff.mp hl).2.2
      refine ⟨hcap, n, rfl, ?_, hy ▸ (Quantity.lt_iff.mp hlate).2.2⟩
      by_contra hpos
      have hback : d.time.level + n.level ≤ d.time.level + 0 :=
        add_le_add_right (not_lt.mp hpos) d.time.level
      rw [add_zero] at hback
      exact absurd hlt (not_lt.mpr hback)
  · rintro ⟨hcap, n, hlife, -, hlt⟩
    obtain ⟨x, hadd, hxnum, hxlevel⟩ := hx n hlife hcap
    have hend : d.lifetime.expiry d.time = .ok x := by
      rw [hlife]
      simp [Lifetime.expiry, Clock.advance, hadd, Except.mapError]
    have hnow' : now.lt x := Quantity.lt_iff.mpr ⟨hnow, hxnum, hxlevel ▸ hlt⟩
    exact ⟨x, ⟨hcap, hend, Quantity.lt_of_le_of_lt ht hnow'⟩, hnow'⟩

theorem get_eq_some_iff (hf : Faithful capacity h w) {v : α} :
    (w.cache.get w.clock key).1 = some v ↔ ∃ x, Holds w.clock w.cache key (some v) x := by
  cases hx : w.cache.find? w.clock key with
  | none =>
    rw [get_of_find?_eq_none hx]
    constructor
    · intro h
      cases h
    · rintro ⟨x, hh⟩
      obtain ⟨e, he, hk, -⟩ := hh
      exact absurd hk (find?_eq_none hx (mem_live.mp he).1 (mem_live.mp he).2)
  | some e =>
    obtain ⟨he, hl, hk⟩ := find?_eq_some hx
    have hself : Holds w.clock w.cache key e.value e.expiry :=
      ⟨e, mem_live.mpr ⟨he, hl⟩, hk, rfl, rfl⟩
    rw [get_of_find?_eq_some hx]
    constructor
    · rintro hv
      exact ⟨e.expiry, hv ▸ hself⟩
    · rintro ⟨x, hh⟩
      exact (hf.unique hself hh).1

end Telling

/-- **A value is told exactly if it stands and its time is not over.**  In a run from an empty
cache, by a clock that does not go back and exact sums of times, getting `key` in the end tells `v`
if and only if the last value stored under `key` is `v`, could be afforded, was to be kept for a
positive time that, counted from when it was stored, is not over, and neither room for something
else nor an invalidation has ended it since. -/
theorem tells_iff_stands {capacity : Nat} {clock : Quantity} {as : List (Action α)}
    (key : String) (v : α) (hc : clock.isNumber)
    (ho : Onward (record ⟨clock, .empty capacity true⟩ as))
    (hx : Exact capacity (record ⟨clock, .empty capacity true⟩ as)) :
    (perform (World.after ⟨clock, .empty capacity true⟩ as) (.get key)).1 =
        .ok (.value (some v)) ↔
      ∃ d, Stands key d (record ⟨clock, .empty capacity true⟩ as) ∧ d.value = some v ∧
        d.cost ≤ capacity ∧ ∃ n, d.lifetime = .seconds n ∧ 0 < n.level ∧
          (World.after (α := α) ⟨clock, .empty capacity true⟩ as).clock.level <
            d.time.level + n.level := by
  have hf := kept_faithful.after (faithful_empty hc) as ho
  rw [List.nil_append] at hf
  generalize World.after ⟨clock, .empty capacity true⟩ as = w at hf ⊢
  have htold : (perform w (.get key)).1 = .ok (.value (w.cache.get w.clock key).1) := rfl
  rw [htold]
  simp only [Except.ok.injEq, Answer.value.injEq]
  rw [get_eq_some_iff hf]
  have hlate : ∀ d : Deposit α, Stands key d (record ⟨clock, .empty capacity true⟩ as) →
      ((∃ x, d.KeptUntil capacity x ∧ w.clock.lt x) ↔
        d.cost ≤ capacity ∧ ∃ n, d.lifetime = .seconds n ∧
          0 < n.level ∧ w.clock.level < d.time.level + n.level) := fun d hs =>
    keptUntil_iff (hf.timely d hs.mem) fun n hn hcap => hx d n hs.mem hcap hn
  constructor
  · rintro ⟨x, hh⟩
    obtain ⟨d, hs, hk, hv, hl⟩ := (hf.holds_iff _ _ _).mp hh
    exact ⟨d, hs, hv, (hlate d hs).mp ⟨x, hk, hl⟩⟩
  · rintro ⟨d, hs, hv, hr⟩
    obtain ⟨x, hk, hl⟩ := (hlate d hs).mpr hr
    exact ⟨x, (hf.holds_iff _ _ _).mpr ⟨d, hs, hk, hv, hl⟩⟩

/-- Two values and a third one are too many for a cache of two units.  The one that was used last
stays, with the time that it was stored with at last. -/
def crowd : List (Action Nat) :=
  [.set "a" (some 1) (.seconds 60) (.units 1), .advance 10,
    .set "a" (some 2) (.seconds 30) (.units 1), .set "b" (some 3) (.seconds 60) (.units 1),
    .get "a", .set "c" (some 4) (.seconds 60) (.units 1), .size,
    .set "c" (some 5) (.seconds 60) (.units 9), .advance 29]

theorem tells_crowd :
    Onward (record ⟨0, .empty 2 true⟩ crowd) ∧ Exact 2 (record ⟨0, .empty 2 true⟩ crowd) ∧
      (perform (World.after ⟨0, .empty 2 true⟩ crowd) (.get "a")).1 = .ok (.value (some 2)) := by
  have hrecord : record ⟨0, .empty 2 true⟩ crowd =
      [.stored ⟨0, "a", some 1, .seconds 60, 1⟩, .passed 0 10] ++
        .stored ⟨10, "a", some 2, .seconds 30, 1⟩ ::
          [.stored ⟨10, "b", some 3, .seconds 60, 1⟩, .stored ⟨10, "c", some 4, .seconds 60, 1⟩,
            .crowdedOut "b", .stored ⟨10, "c", some 5, .seconds 60, 9⟩, .passed 10 39] := rfl
  have ho : Onward (record ⟨0, .empty 2 true⟩ crowd) := by
    rw [hrecord]
    intro t u hm
    simp only [List.cons_append, List.nil_append, List.mem_cons, reduceCtorEq, false_or,
      Note.passed.injEq, List.not_mem_nil, or_false] at hm
    rcases hm with ⟨rfl, rfl⟩ | ⟨rfl, rfl⟩ <;> exact Quantity.le_whole (by decide)
  have hx : Exact 2 (record ⟨0, .empty 2 true⟩ crowd) := by
    rw [hrecord]
    intro d n hm hcap hn
    simp only [List.cons_append, List.nil_append, List.mem_cons, reduceCtorEq, false_or,
      Note.stored.injEq, List.not_mem_nil, or_false] at hm
    rcases hm with rfl | rfl | rfl | rfl | rfl <;> cases hn <;> exact endsExactly_whole _ _
  refine ⟨ho, hx, (tells_iff_stands "a" 2 rfl ho hx).mpr ?_⟩
  refine ⟨⟨10, "a", some 2, .seconds 30, 1⟩, ⟨_, _, hrecord, rfl, ?_⟩, rfl, by decide, 30, rfl, ?_⟩
  · simp [Note.Ends]
  · have hclock : (World.after (α := Nat) ⟨0, .empty 2 true⟩ crowd).clock = 39 := rfl
    have hsum : (40 : Quantity).level = (10 : Quantity).level + (30 : Quantity).level :=
      Quantity.level_whole_add 10 30
    rw [hclock, ← hsum]
    exact ⟨by decide, (Quantity.lt_iff.mp (by decide)).2.2⟩

end Gazetteer.Cache
