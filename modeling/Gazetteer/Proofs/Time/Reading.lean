import Gazetteer.Proofs.Time.Writing
import Gazetteer.Validation.Rule

/-!
# Moments that are read

Whatever a value is that is accepted as a moment, a text or a number of seconds, the moment is a
date of the calendar and a time of day, and no year but one to 9999 is read.

* `valid_of_atFront`, `valid_of_withTime?`: from a text with a date, with a time of day;
* `valid_of_afterEpoch`: from a number of seconds;
* `valid_of_moment`: from any value.
-/

namespace Gazetteer

open Number Text

theorem Date.valid_of_atFront {cs rest : List Char} {d : Date}
    (h : Date.atFront cs = .ok (d, rest)) : d.Valid := by
  unfold Date.atFront at h
  split at h
  · cases h
  split at h
  · cases h
  next year _ hyear =>
  split at h
  · cases h
  split at h
  · cases h
  next month _ _ =>
  split at h
  · cases h
  split at h
  · cases h
  next day _ _ =>
  split_ifs at h with hmonth hday
  cases h
  have hlt := lt_of_digitsAtFront? hyear
  exact ⟨Nat.le_of_lt_succ hlt, ⟨by dsimp only; omega, by dsimp only; omega⟩,
    by dsimp only; omega, by dsimp only; omega⟩

namespace Moment

/-- **A date and a time of day**, in any year that can be written, the year zero among them. -/
structure Timely (m : Moment) : Prop where
  date : m.date.Valid
  hour : m.hour ≤ 23
  minute : m.minute ≤ 59
  second : m.second ≤ 59
  microsecond : m.microsecond < 1000000
  offset : ∀ o ∈ m.offset, IsOffset o

theorem Timely.valid {m : Moment} (h : m.Timely) (hyear : 1 ≤ m.date.year) : m.Valid :=
  ⟨h.date, hyear, h.hour, h.minute, h.second, h.microsecond, h.offset⟩

theorem millionths_lt {digits : List Char} (h : ∀ c ∈ digits, c.isDigit) :
    millionths digits < 1000000 := by
  have hlt := digitsValue_lt fun c hc => h c (List.mem_of_mem_take (i := 6) hc)
  rw [List.length_take] at hlt
  unfold millionths
  rcases Nat.le_total digits.length 6 with hle | hle
  · rw [Nat.min_eq_right hle] at hlt
    calc digitsValue (digits.take 6) * Nat.pow 10 (6 - digits.length)
        < 10 ^ digits.length * 10 ^ (6 - digits.length) :=
          Nat.mul_lt_mul_of_pos_right hlt (Nat.pow_pos (by decide))
      _ = 1000000 := by rw [← Nat.pow_add, Nat.add_sub_cancel' hle]
  · rw [Nat.min_eq_left hle] at hlt
    rw [Nat.sub_eq_zero_of_le hle]
    simpa using hlt

theorem bounds_of_secondsAtFront? {cs rest : List Char} {second microsecond : Nat}
    (h : secondsAtFront? cs = some (second, microsecond, rest)) :
    second ≤ 59 ∧ microsecond < 1000000 := by
  unfold secondsAtFront? at h
  split at h
  · simp only [Option.bind_eq_bind, Option.bind_eq_some_iff] at h
    obtain ⟨⟨s, cs⟩, -, h⟩ := h
    split at h
    · cases h
    next hs =>
    dsimp only at h hs
    split at h
    · next c cs =>
      split_ifs at h
      · cases h
        refine ⟨by omega, millionths_lt fun c hc => ?_⟩
        exact List.mem_takeWhile_imp hc
      · cases h
        exact ⟨by omega, by decide⟩
    · cases h
      exact ⟨by omega, by decide⟩
  · cases h
    decide

theorem isOffset_zero : IsOffset 0 := ⟨0, rfl, by decide⟩

theorem isOffset_of_offset? {cs : List Char} {offset : Option Int}
    (h : offset? cs = some offset) : ∀ o ∈ offset, IsOffset o := by
  unfold offset? at h
  split at h
  · cases h
    nofun
  · cases h
    rintro _ ⟨⟩
    exact isOffset_zero
  · cases h
    rintro _ ⟨⟩
    exact isOffset_zero
  · simp only [Option.bind_eq_bind, Option.bind_eq_some_iff] at h
    obtain ⟨⟨sign, cs₁⟩, hsign, ⟨hours, cs₂⟩, -, ⟨minutes, cs₃⟩, -, h⟩ := h
    dsimp only at hsign h
    split_ifs at h with hbounds
    cases h
    rintro _ ⟨⟩
    have hone : sign.natAbs = 1 := by
      unfold signAtFront? at hsign
      split at hsign <;> cases hsign <;> rfl
    have habs : (60 * (hours : Int) + minutes).natAbs = 60 * hours + minutes := by omega
    refine ⟨_, rfl, ?_⟩
    rw [Int.natAbs_mul, hone, habs]
    omega

theorem timely_of_withTime? {cs : List Char} {m : Moment} (h : withTime? cs = some m) :
    m.Timely := by
  simp only [withTime?, Option.bind_eq_bind, Option.bind_eq_some_iff] at h
  obtain ⟨⟨date, cs₁⟩, hdate, ⟨separator, cs₂⟩, -, h⟩ := h
  split at h
  · cases h
  simp only [Option.bind_eq_some_iff] at h
  obtain ⟨⟨hour, cs₃⟩, -, cs₄, -, ⟨minute, cs₅⟩, -, h⟩ := h
  split at h
  · cases h
  next hclock =>
  simp only [Option.bind_eq_some_iff] at h
  obtain ⟨⟨second, microsecond, cs₆⟩, hseconds, offset, hoffset, h⟩ := h
  cases h
  have hvalid : date.Valid := by
    cases hd : Date.atFront cs with
    | ok found =>
      rw [hd] at hdate
      cases hdate
      exact Date.valid_of_atFront hd
    | error fault =>
      rw [hd] at hdate
      cases hdate
  obtain ⟨hsecond, hmicrosecond⟩ := bounds_of_secondsAtFront? hseconds
  exact ⟨hvalid, by dsimp only; omega, by dsimp only; omega, hsecond, hmicrosecond,
    isOffset_of_offset? hoffset⟩

/-! ## Numbers of seconds -/

theorem valid_of_afterEpoch {seconds : Int} {microseconds : Nat} {m : Moment}
    (hm : microseconds < 1000000) (h : afterEpoch seconds microseconds = .ok m) : m.Valid := by
  unfold afterEpoch at h
  split at h
  · cases h
  split at h
  · cases h
  split at h
  · cases h
  next hlast hone =>
  cases h
  simp only [lastSecond, firstOfYearOne] at hlast hone
  refine valid_ofMicroseconds (by unfold epochSeconds; omega) (by unfold epochSeconds; omega) ?_
  rintro _ ⟨⟩
  exact isOffset_zero

theorem valid_of_ofTimestamp {n : Int} {m : Moment} (h : ofTimestamp n = .ok m) : m.Valid := by
  unfold ofTimestamp at h
  split at h
  · have hmod := Int.fmod_lt_of_pos n (show (0 : Int) < 1000 by decide)
    exact valid_of_afterEpoch (by omega) h
  · exact valid_of_afterEpoch (by decide) h

theorem valid_of_ofReal {x : Binary64} {m : Moment} (h : ofReal x = .ok m) : m.Valid := by
  cases x with
  | finite negative mantissa exponent =>
    exact valid_of_afterEpoch (Nat.mod_lt _ (by decide)) h
  | infinite negative => cases h
  | notANumber => cases h

/-! ## Any value -/

theorem valid_of_checked {m n : Moment} (hm : m.Timely) (h : checked m = .ok n) : n.Valid := by
  unfold checked at h
  split_ifs at h with hyear
  cases h
  exact hm.valid (by omega)

theorem timely_of_atDate {cs : List Char} {m : Moment} (h : atDate cs = .ok m) : m.Timely := by
  unfold atDate at h
  split at h
  · next date hdate =>
    cases h
    exact ⟨Date.valid_of_atFront hdate, Nat.zero_le _, Nat.zero_le _, Nat.zero_le _,
      (by decide : 0 < 1000000), nofun⟩
  · cases h
  · cases h

theorem timely_of_valid {m : Moment} (h : m.Valid) : m.Timely :=
  ⟨h.date, h.hour, h.minute, h.second, h.microsecond, h.offset⟩

theorem timely_of_ofNumeral {cs : List Char} {m : Moment} (h : ofNumeral cs = .ok m) :
    m.Timely := by
  unfold ofNumeral at h
  dsimp only at h
  split at h
  · split at h
    · cases h
    · exact timely_of_valid (valid_of_ofTimestamp h)
  · split at h
    · exact timely_of_atDate h
    · exact timely_of_valid (valid_of_ofReal h)
  · exact timely_of_atDate h

theorem valid_of_read {s : String} {m : Moment} (h : Moment.read s = .ok m) : m.Valid := by
  unfold Moment.read at h
  dsimp only at h
  split at h
  · next hm => exact valid_of_checked (timely_of_withTime? hm) h
  · cases hn : ofNumeral ((Utf8.encode s.toList).map Char.ofNat) with
    | ok n =>
      rw [hn] at h
      exact valid_of_checked (timely_of_ofNumeral hn) h
    | error fault =>
      rw [hn] at h
      cases h

/-- **A value that is accepted as a moment is one.** -/
theorem valid_of_moment {v : Json} {m : Moment} (h : Validation.moment v = .ok m) : m.Valid := by
  have hreading : ∀ {r : Except MomentFault Moment}, Validation.ofReading v r = .ok m →
      r = .ok m := by
    rintro (fault | n) hr
    · cases hr
    · cases hr
      rfl
  cases v with
  | text s => exact valid_of_read (hreading h)
  | int n =>
    unfold Validation.moment at h
    dsimp only at h
    split at h
    · exact valid_of_ofTimestamp (hreading h)
    · exact absurd h Validation.Checked.refuse_ne_ok
  | real x => exact valid_of_ofReal (hreading h)
  | _ => exact absurd h Validation.Checked.refuse_ne_ok

end Moment

end Gazetteer
