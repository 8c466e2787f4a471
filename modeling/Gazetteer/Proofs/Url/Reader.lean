import Gazetteer.Proofs.Store.Session
import Gazetteer.Proofs.Text.Trimming
import Gazetteer.Validation.Rule

/-!
# The front of an address

What stands before the first colon of an address is its scheme, in capitals or not, and controls and
spaces may stand before that.

* `exists_scheme?_of_read`, `scheme?_eq_some`: where the scheme was read;
* `head?_of_webAddress`: the first character of an address of the web.
-/

namespace Gazetteer.Address

open Text Validation

theorem isWeb_of_webAddress {s : String} {a : Address} (h : webAddress (.text s) = .ok a) :
    read s = .ok a ∧ a.isWeb := by
  unfold webAddress at h
  dsimp only at h
  split at h
  · cases h
  · next b hb =>
    split at h
    · next hweb => cases h; exact ⟨hb, hweb⟩
    · cases h

/-- The scheme of an address was read at the front of its text. -/
theorem exists_scheme?_of_read {s : String} {a : Address} (h : read s = .ok a) :
    ∃ rest, scheme? ((trimBy (fun c => c.toNat ≤ 0x20) s.toList).filter (!isIgnored ·)) =
      some (a.scheme, rest) := by
  unfold read at h
  split at h
  · cases h
  dsimp only at h
  cases hs : scheme? ((trimBy (fun c => c.toNat ≤ 0x20) s.toList).filter (!isIgnored ·)) with
  | none => rw [hs] at h; cases h
  | some found =>
    obtain ⟨scheme, rest⟩ := found
    rw [hs] at h
    dsimp only at h
    refine ⟨rest, ?_⟩
    cases hp : usualPorts.lookup scheme with
    | some port =>
      rw [hp] at h
      obtain ⟨host, -, h⟩ := bind_eq_ok_iff.mp h
      obtain ⟨port, -, h⟩ := bind_eq_ok_iff.mp h
      cases h
      rfl
    | none =>
      rw [hp] at h
      dsimp only at h
      unfold foreign at h
      split at h
      · cases h
      · cases h
        rfl

theorem scheme?_eq_some {cs rest : List Char} {scheme : String}
    (h : scheme? cs = some (scheme, rest)) :
    ∃ name, cs = name ++ ':' :: rest ∧ scheme = String.ofList (name.map Char.toLower) := by
  unfold scheme? at h
  dsimp only at h
  split at h
  · next c name more hname hmore =>
    split at h
    · obtain ⟨rfl, rfl⟩ := Prod.mk.inj (Option.some.inj h)
      refine ⟨_, ?_, rfl⟩
      rw [← hmore]
      exact (List.prefix_iff_eq_append.mp (List.takeWhile_prefix _)).symm
    · cases h
  · cases h

/-- **An address of the web begins with the letter of its scheme**, behind controls and spaces. -/
theorem head?_of_webAddress {s : String} {a : Address} (h : webAddress (.text s) = .ok a) :
    ∃ c ∈ s.toList.head?, c.toNat ≤ 0x20 ∨ c.toLower = 'h' := by
  obtain ⟨hread, hweb⟩ := isWeb_of_webAddress h
  obtain ⟨rest, hscheme⟩ := exists_scheme?_of_read hread
  obtain ⟨name, hcut, hname⟩ := scheme?_eq_some hscheme
  obtain ⟨d, ds, rfl, hd⟩ : ∃ d ds, name = d :: ds ∧ d.toLower = 'h' := by
    have hlower : ∃ more, name.map Char.toLower = 'h' :: more := by
      rw [← String.toList_ofList (l := name.map Char.toLower), ← hname]
      simp only [isWeb, Bool.or_eq_true, decide_eq_true_eq] at hweb
      rcases hweb with hweb | hweb <;> rw [hweb] <;> exact ⟨_, rfl⟩
    obtain ⟨more, hlower⟩ := hlower
    obtain ⟨d, ds, rfl, hd, -⟩ := List.map_eq_cons_iff.mp hlower
    exact ⟨d, ds, rfl, hd⟩
  cases hs : s.toList with
  | nil =>
    rw [hs] at hcut
    cases hcut
  | cons c cs =>
    refine ⟨c, rfl, or_iff_not_imp_left.mpr fun hlow => ?_⟩
    have hkept : isIgnored c = false := by
      rw [← Bool.not_eq_true]
      intro hc
      simp only [isIgnored, Bool.or_eq_true, decide_eq_true_eq] at hc
      rcases hc with (rfl | rfl) | rfl <;> exact hlow (by decide)
    obtain ⟨more, hmore⟩ : ∃ more,
        trimBy (fun c => decide (c.toNat ≤ 0x20)) (c :: cs) = c :: more :=
      trimBy_cons_of_neg (by simpa using hlow)
    rw [hs, hmore, List.filter_cons_of_pos (by simp [hkept])] at hcut
    rw [(List.cons.inj hcut).1]
    exact hd

end Gazetteer.Address
