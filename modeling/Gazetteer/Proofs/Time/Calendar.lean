import Gazetteer.Time.Reader
import Mathlib.Tactic.IntervalCases

/-!
# Days are dates

Days are numbered from the first of March of the year zero on, and a number is taken apart into
centuries, groups of four years, years and days.  What comes out is always a date of the calendar:
the day that a common year does not have is the last of a year before a leap day.

* `Date.Valid`, `Moment.Valid`: the dates and times that there are;
* `exists_parts`, `yearOfEra_eq`: a day of an era of four hundred years;
* `valid_ofDayNumber`, `year_ofDayNumber`: a day by its number;
* `valid_ofMicroseconds`: a moment by its number.
-/

namespace Gazetteer

/-- **A day of the calendar**, of a year that can be written. -/
structure Date.Valid (d : Date) : Prop where
  year : d.year ≤ 9999
  month : 1 ≤ d.month ∧ d.month ≤ 12
  day : 1 ≤ d.day ∧ d.day ≤ Date.monthLength d.year d.month

/-- **An offset of whole minutes**, fewer than those of a day. -/
def Moment.IsOffset (microseconds : Int) : Prop :=
  ∃ minutes : Int, microseconds = minutes * minuteLength ∧ minutes.natAbs < 1440

/-- **A date and a time of day**, not in the year zero and with whole minutes in its offset. -/
structure Moment.Valid (m : Moment) : Prop where
  date : m.date.Valid
  year : 1 ≤ m.date.year
  hour : m.hour ≤ 23
  minute : m.minute ≤ 59
  second : m.second ≤ 59
  microsecond : m.microsecond < 1000000
  offset : ∀ o ∈ m.offset, IsOffset o

namespace Date

/-! ## Days of an era -/

/-- **A day of an era lies in a century, in four years, in a year.**  Only the last year of four has
one more day, and not at the end of a century, unless the era ends with it. -/
theorem exists_parts {day : Nat} (h : day < 146097) : ∃ c i j k,
    day = 36524 * c + 1461 * i + 365 * j + k ∧ c ≤ 3 ∧ i ≤ 24 ∧ j ≤ 3 ∧ k ≤ 365 ∧
      (k = 365 → j = 3 ∧ (i < 24 ∨ c = 3)) := by
  -- The last day of an era belongs to its last century, and that of four years to the last year.
  obtain ⟨c, r, hc, hday, hr, hlast⟩ : ∃ c r, c ≤ 3 ∧ day = 36524 * c + r ∧ r ≤ 36524 ∧
      (r = 36524 → c = 3) := by
    by_cases hend : day = 146096
    · exact ⟨3, 36524, by omega, by omega, le_rfl, fun _ => rfl⟩
    · exact ⟨day / 36524, day % 36524, by omega, by omega, by omega, by omega⟩
  obtain ⟨j, k, hj, hyear, hk, hleap⟩ : ∃ j k, j ≤ 3 ∧ r % 1461 = 365 * j + k ∧ k ≤ 365 ∧
      (k = 365 → j = 3) := by
    by_cases hend : r % 1461 = 1460
    · exact ⟨3, 365, by omega, by omega, le_rfl, fun _ => rfl⟩
    · exact ⟨r % 1461 / 365, r % 1461 % 365, by omega, by omega, by omega, by omega⟩
  exact ⟨c, r / 1461, j, k, by omega, hc, by omega, hj, hk, by omega⟩

/-- The year that the formula gives is that of the parts. -/
theorem yearOfEra_eq {c i j k day : Nat} (hday : day = 36524 * c + 1461 * i + 365 * j + k)
    (hc : c ≤ 3) (hi : i ≤ 24) (hj : j ≤ 3) (hk : k ≤ 365)
    (hleap : k = 365 → j = 3 ∧ (i < 24 ∨ c = 3)) :
    (day - day / 1460 + day / 36524 - day / 146096) / 365 = 100 * c + 4 * i + j := by
  -- The quotients count the leap days of the years before, and the one that ends the year.
  obtain ⟨e, he, hcarry⟩ : ∃ e, e ≤ 1 ∧ (e = 1 ↔ 1460 ≤ 24 * c + i + 365 * j + k) := by
    by_cases hend : 1460 ≤ 24 * c + i + 365 * j + k
    · exact ⟨1, le_rfl, iff_of_true rfl hend⟩
    · exact ⟨0, by omega, iff_of_false (by omega) hend⟩
  have hfour : day / 1460 = 25 * c + i + e := by omega
  by_cases hend : day = 146096
  · subst hend
    omega
  · have hera : day / 146096 = 0 := by omega
    have hcentury : day / 36524 = c := by omega
    rw [hfour, hcentury, hera]
    omega

/-! ## Days of a year -/

/-- The month of a day of a year that begins in March. -/
def monthOf (dayOfYear : Nat) : Nat :=
  if (5 * dayOfYear + 2) / 153 < 10 then (5 * dayOfYear + 2) / 153 + 3
  else (5 * dayOfYear + 2) / 153 - 9

/-- The day of its month. -/
def dayOf (dayOfYear : Nat) : Nat := dayOfYear - (153 * ((5 * dayOfYear + 2) / 153) + 2) / 5 + 1

theorem isLeapYear_iff {year : Nat} :
    isLeapYear year ↔ year % 4 = 0 ∧ (year % 100 ≠ 0 ∨ year % 400 = 0) := by
  simp [isLeapYear]

/-- The months from March to January are as long as the formula has it. -/
theorem monthLength_fromMarch {m : Nat} (hm : m ≤ 10) (year : Nat) :
    monthLength year (if m < 10 then m + 3 else m - 9) =
      (153 * (m + 1) + 2) / 5 - (153 * m + 2) / 5 := by
  interval_cases m <;> rfl

/-- **A day of a year is a day of a month**, if its last day is there in leap years only. -/
theorem monthOf_dayOf {k year : Nat} (hk : k ≤ 365) (hleap : k = 365 → isLeapYear year) :
    (1 ≤ monthOf k ∧ monthOf k ≤ 12) ∧ 1 ≤ dayOf k ∧ dayOf k ≤ monthLength year (monthOf k) := by
  unfold monthOf dayOf
  generalize hm : (5 * k + 2) / 153 = m
  refine ⟨by split <;> omega, by omega, ?_⟩
  rcases Nat.lt_or_ge m 11 with hlt | hge
  · rw [monthLength_fromMarch (by omega)]
    omega
  · -- What is left is February, which is the last month.
    obtain rfl : m = 11 := by omega
    have hlength : monthLength year (if 11 < 10 then 11 + 3 else 11 - 9) =
        if isLeapYear year then 29 else 28 := rfl
    rw [hlength]
    by_cases hlast : k = 365
    · rw [if_pos (hleap hlast)]
      omega
    · split <;> omega

/-- The date of a day by the parts of its number. -/
theorem ofDayNumber_eq {n c i j k : Nat}
    (hday : n % 146097 = 36524 * c + 1461 * i + 365 * j + k) (hc : c ≤ 3) (hi : i ≤ 24)
    (hj : j ≤ 3) (hk : k ≤ 365) (hleap : k = 365 → j = 3 ∧ (i < 24 ∨ c = 3)) :
    ofDayNumber n = ⟨n / 146097 * 400 + (100 * c + 4 * i + j) + (if monthOf k ≤ 2 then 1 else 0),
      monthOf k, dayOf k⟩ := by
  have hquarters : (100 * c + 4 * i + j) / 4 = 25 * c + i := by omega
  have hcenturies : (100 * c + 4 * i + j) / 100 = c := by omega
  have hrest : n % 146097 - (365 * (100 * c + 4 * i + j) + (100 * c + 4 * i + j) / 4 -
      (100 * c + 4 * i + j) / 100) = k := by
    omega
  have hyear := yearOfEra_eq hday hc hi hj hk hleap
  simp only [ofDayNumber, hyear, hrest]
  rfl

/-! ## Days by their numbers -/

/-- **Every day up to the last of the year 9999 is a date**, -/
theorem valid_ofDayNumber {n : Nat} (h : n ≤ 3652364) : (ofDayNumber n).Valid := by
  obtain ⟨c, i, j, k, hday, hc, hi, hj, hk, hleap⟩ :=
    exists_parts (Nat.mod_lt n (by decide : 0 < 146097))
  rw [ofDayNumber_eq hday hc hi hj hk hleap]
  have hleap' : k = 365 → isLeapYear (n / 146097 * 400 + (100 * c + 4 * i + j) + 1) := by
    intro hlast
    obtain ⟨rfl, hcentury⟩ := hleap hlast
    rw [isLeapYear_iff]
    omega
  have hmonth : monthOf k ≤ 2 ↔ 306 ≤ k := by
    unfold monthOf
    split <;> omega
  have hyear : k = 365 → isLeapYear (n / 146097 * 400 + (100 * c + 4 * i + j) +
      if monthOf k ≤ 2 then 1 else 0) := by
    intro hlast
    rw [if_pos (hmonth.mpr (by omega))]
    exact hleap' hlast
  obtain ⟨hmonths, hdays⟩ := monthOf_dayOf hk hyear
  refine ⟨?_, hmonths, hdays⟩
  simp only [hmonth]
  split <;> omega

/-- and from the first of the year one on, none lies in the year zero. -/
theorem one_le_year_ofDayNumber {n : Nat} (h : 306 ≤ n) : 1 ≤ (ofDayNumber n).year := by
  obtain ⟨c, i, j, k, hday, hc, hi, hj, hk, hleap⟩ :=
    exists_parts (Nat.mod_lt n (by decide : 0 < 146097))
  rw [ofDayNumber_eq hday hc hi hj hk hleap]
  simp only [monthOf]
  split_ifs <;> omega

end Date

/-! ## Moments by their numbers -/

/-- **A moment between the first of the year one and the last of the year 9999** is a date and a
time of day. -/
theorem Moment.valid_ofMicroseconds {microseconds : Nat} {offset : Option Int}
    (hlow : 306 * 86400 * 1000000 ≤ microseconds)
    (hhigh : microseconds < 3652365 * 86400 * 1000000)
    (hoffset : ∀ o ∈ offset, IsOffset o) :
    (ofMicroseconds microseconds offset).Valid where
  date := Date.valid_ofDayNumber (by omega)
  year := Date.one_le_year_ofDayNumber (by omega)
  hour := by
    change microseconds / 1000000 % 86400 / 3600 ≤ 23
    omega
  minute := by
    change microseconds / 1000000 % 86400 / 60 % 60 ≤ 59
    omega
  second := by
    change microseconds / 1000000 % 86400 % 60 ≤ 59
    omega
  microsecond := Nat.mod_lt _ (by decide)
  offset := hoffset

end Gazetteer
