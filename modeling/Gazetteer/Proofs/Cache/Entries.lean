import Gazetteer.Cache.Basic
import Gazetteer.Proofs.Time.Order

/-!
# The entries after an operation

No operation on a cache makes an entry but storing, which makes the entry that it is told to make;
every other entry of a cache was there before.

* `find?_eq_some`, `get_of_find?_eq_none`: hits and misses;
* `mem_of_mem_get`, `mem_or_of_mem_setIfCurrent`, `mem_invalidate`: the entries afterwards;
* `set_units`: storing at a cost that is not negative succeeds as soon as the lifetime has an end;
* `isLive_of_le`: an entry that is live was live before.
-/

namespace Gazetteer.Cache

open Number

variable {α : Type} {c c' : Cache α} {e : CacheEntry α} {now : Quantity} {key : String}

/-- **An entry that is live was live before.** -/
theorem isLive_of_le {t t' : Quantity} (h : t.Le t') (hl : e.isLive t') : e.isLive t :=
  Quantity.lt_of_le_of_lt h hl

/-! ## Looking up -/

theorem mem_live : e ∈ c.live now ↔ e ∈ c.entries ∧ e.isLive now := List.mem_filter

theorem mem_without {es : List (CacheEntry α)} : e ∈ without key es ↔ e ∈ es ∧ e.key ≠ key := by
  simp [without]

theorem find?_eq_some (h : c.find? now key = some e) :
    e ∈ c.entries ∧ e.isLive now ∧ e.key = key := by
  have hmem := mem_live.mp (List.mem_of_find?_eq_some h)
  exact ⟨hmem.1, hmem.2, by simpa using List.find?_some h⟩

theorem find?_eq_none (h : c.find? now key = none) (he : e ∈ c.entries) (hl : e.isLive now) :
    e.key ≠ key := by
  simpa using List.find?_eq_none.mp h e (mem_live.mpr ⟨he, hl⟩)

theorem get_of_find?_eq_none (h : c.find? now key = none) : c.get now key = (none, c) := by
  simp [get, h]

theorem get_of_find?_eq_some (h : c.find? now key = some e) :
    c.get now key = (e.value, { c with entries := without key c.entries ++ [e] }) := by
  simp [get, h]

theorem mem_of_mem_get (h : e ∈ (c.get now key).2.entries) : e ∈ c.entries := by
  cases hf : c.find? now key with
  | none => rwa [get_of_find?_eq_none hf] at h
  | some d =>
    rw [get_of_find?_eq_some hf] at h
    rcases List.mem_append.mp h with h | h
    · exact (mem_without.mp h).1
    · rw [List.mem_singleton.mp h]
      exact (find?_eq_some hf).1

@[simp] theorem get_generation : (c.get now key).2.generation = c.generation := by
  cases hf : c.find? now key with
  | none => rw [get_of_find?_eq_none hf]
  | some d => rw [get_of_find?_eq_some hf]

theorem get_frame (c : Cache α) (now : Quantity) (key : String) :
    (c.get now key).2.retains = c.retains ∧ (c.get now key).2.capacity = c.capacity := by
  cases hf : c.find? now key with
  | none => rw [get_of_find?_eq_none hf]; exact ⟨rfl, rfl⟩
  | some d => rw [get_of_find?_eq_some hf]; exact ⟨rfl, rfl⟩

/-! ## Storing -/

section Storing

variable {value : Option α} {lifetime : Lifetime} {cost : Cost} {kept : Bool} {generation : Nat}

theorem mem_of_mem_place {d : CacheEntry α} (h : e ∈ (c.place now d).entries) :
    e ∈ c.entries ∨ e = d := by
  rcases List.mem_append.mp h with h | h
  · have hmem := (makeRoom_suffix c.capacity d.cost (without d.key (c.live now))).subset h
    exact Or.inl (mem_live.mp (mem_without.mp hmem).1).1
  · exact Or.inr (List.mem_singleton.mp h)

/-- What storing at a numerical cost may come to: a refusal, an end at once, or an entry. -/
theorem store_cases {n : Int} (h : c.store now key value lifetime n = .ok (kept, c')) :
    c.capacity < n ∧ c' = c.dropLive now key ∨
      ∃ expiry, n ≤ c.capacity ∧ lifetime.expiry now = .ok expiry ∧
        (¬now.lt expiry ∧ c' = c.drop key ∨
          now.lt expiry ∧ 0 ≤ n ∧ c' = c.place now ⟨key, value, expiry, n.toNat⟩) := by
  unfold store at h
  split at h
  · next hc =>
    cases h
    exact Or.inl ⟨hc, rfl⟩
  · next hc =>
    cases hx : lifetime.expiry now with
    | error fault => rw [hx] at h; cases h
    | ok expiry =>
      rw [hx] at h
      simp only [bind, Except.bind] at h
      refine Or.inr ⟨expiry, by omega, rfl, ?_⟩
      split at h
      · next hl =>
        cases h
        exact Or.inl ⟨by simpa using hl, rfl⟩
      · next hl =>
        split at h
        · cases h
        · next hn =>
          cases h
          exact Or.inr ⟨by simpa using hl, by omega, rfl⟩

/-- **Storing makes one entry at most**, with the value, the lifetime and the cost that it is
told. -/
theorem mem_or_of_mem_set (h : c.set now key value lifetime cost = .ok (kept, c'))
    (he : e ∈ c'.entries) : e ∈ c.entries ∨ e.key = key ∧ e.value = value ∧
      lifetime.expiry now = .ok e.expiry ∧ cost = .units e.cost := by
  unfold set at h
  split at h
  · cases h
    exact Or.inl he
  · cases cost with
    | improper kind => cases h
    | units n =>
      rcases store_cases h with ⟨-, rfl⟩ | ⟨expiry, -, hx, ⟨-, rfl⟩ | ⟨-, hn, rfl⟩⟩
      · exact Or.inl (List.mem_filter.mp he).1
      · exact Or.inl (mem_without.mp he).1
      · rcases mem_of_mem_place he with he | rfl
        · exact Or.inl he
        · exact Or.inr ⟨rfl, rfl, hx, by rw [Int.toNat_of_nonneg hn]⟩

theorem set_frame (h : c.set now key value lifetime cost = .ok (kept, c')) :
    c'.generation = c.generation ∧ c'.retains = c.retains ∧ c'.capacity = c.capacity := by
  unfold set at h
  split at h
  · cases h
    exact ⟨rfl, rfl, rfl⟩
  · cases cost with
    | improper kind => cases h
    | units n =>
      rcases store_cases h with ⟨-, rfl⟩ | ⟨expiry, -, -, ⟨-, rfl⟩ | ⟨-, -, rfl⟩⟩ <;>
        exact ⟨rfl, rfl, rfl⟩

/-- Storing at a cost that is not negative succeeds as soon as the lifetime has an end. -/
theorem set_units {expiry : Quantity} (h : lifetime.expiry now = .ok expiry) (n : Nat) :
    ∃ kept c', c.set now key value lifetime (.units n) = .ok (kept, c') := by
  unfold set store
  simp only [h, bind, Except.bind]
  split
  · exact ⟨_, _, rfl⟩
  · split
    · exact ⟨_, _, rfl⟩
    · split
      · exact ⟨_, _, rfl⟩
      · rw [if_neg (by omega)]
        exact ⟨_, _, rfl⟩

variable {v : α}

/-- A value of the present generation is stored, any other one is not. -/
theorem mem_or_of_mem_setIfCurrent
    (h : c.setIfCurrent now generation key v lifetime cost = .ok c') (he : e ∈ c'.entries) :
    e ∈ c.entries ∨ generation = c.generation ∧ e.key = key ∧ e.value = some v ∧
      lifetime.expiry now = .ok e.expiry ∧ cost = .units e.cost := by
  unfold setIfCurrent at h
  split at h
  · next hg =>
    cases hs : c.set now key (some v) lifetime cost with
    | error fault => rw [hs] at h; cases h
    | ok x =>
      rw [hs] at h
      cases h
      rcases mem_or_of_mem_set hs he with he | he
      · exact Or.inl he
      · exact Or.inr ⟨hg, he⟩
  · cases h
    exact Or.inl he

theorem setIfCurrent_frame (h : c.setIfCurrent now generation key v lifetime cost = .ok c') :
    c'.generation = c.generation ∧ c'.retains = c.retains ∧ c'.capacity = c.capacity := by
  unfold setIfCurrent at h
  split at h
  · cases hs : c.set now key (some v) lifetime cost with
    | error fault => rw [hs] at h; cases h
    | ok x =>
      rw [hs] at h
      cases h
      exact set_frame hs
  · cases h
    exact ⟨rfl, rfl, rfl⟩

theorem setIfCurrent_units {expiry : Quantity} (h : lifetime.expiry now = .ok expiry) (n : Nat) :
    ∃ c', c.setIfCurrent now generation key v lifetime (.units n) = .ok c' := by
  obtain ⟨kept, c', hs⟩ : ∃ kept c', c.set now key (some v) lifetime (.units n) = .ok (kept, c') :=
    set_units h n
  unfold setIfCurrent
  rw [hs]
  split
  · exact ⟨c', rfl⟩
  · exact ⟨c, rfl⟩

end Storing

/-! ## Invalidating -/

/-- **An invalidation spares the entries outside the family and those that are dead.** -/
theorem mem_invalidate {family : String} : e ∈ (c.invalidate now family).2.entries ↔
    e ∈ c.entries ∧ ¬ (isUnder family e.key ∧ e.isLive now) := by
  unfold invalidate
  simp only [List.mem_filter, Bool.not_eq_true', ← Bool.not_eq_true, Bool.and_eq_true]

theorem mem_sweep : e ∈ (c.sweep now).entries ↔ e ∈ c.entries ∧ e.isLive now := mem_live

end Gazetteer.Cache
