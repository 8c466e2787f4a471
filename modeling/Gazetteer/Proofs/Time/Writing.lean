import Gazetteer.Proofs.Number.IntegerText
import Gazetteer.Proofs.Time.Calendar
import Mathlib.Data.List.Induction

/-!
# Moments in writing

A moment is written with a fixed number of digits for each of its parts, but for the fraction of a
second and the offset, which are written only if there are any.  Each part begins with a character
that the part before it could not hold, so a moment is read back from its text, an offset of whole
minutes included.

* `digitsAtFront?_padded`: a row of digits is read back;
* `atFront_text`, `secondsAtFront?_text`, `offset?_text`: the parts of a moment;
* `withTime?_text`, `read_text`: the whole moment.
-/

namespace Gazetteer

open Number Text

/-- The octets of a text of ASCII are its characters. -/
theorem Text.Utf8.map_ofNat_encode {cs : List Char} (h : ∀ c ∈ cs, c.toNat < 128) :
    (encode cs).map Char.ofNat = cs := by
  induction cs with
  | nil => rfl
  | cons c cs ih =>
    rw [List.forall_mem_cons] at h
    rw [encode, List.flatMap_cons, encodeChar_of_ascii h.1, List.map_append, List.map_singleton,
      Char.ofNat_toNat]
    exact congrArg (c :: ·) (ih h.2)

/-! ## Rows of digits -/

namespace Number

variable {width n : Nat} {c : Char} {cs : List Char}

theorem digitValue_lt (h : c.isDigit) : digitValue c < 10 := by
  simp only [Char.isDigit, Bool.and_eq_true, decide_eq_true_eq] at h
  have hle : c.toNat ≤ 57 := h.2
  unfold digitValue
  omega

theorem digitsValue_append (cs ds : List Char) :
    digitsValue (cs ++ ds) = ds.foldl (fun n c => 10 * n + digitValue c) (digitsValue cs) :=
  List.foldl_append

theorem digitsValue_lt (h : ∀ c ∈ cs, c.isDigit) : digitsValue cs < 10 ^ cs.length := by
  induction cs using List.reverseRecOn with
  | nil => decide
  | append_singleton cs c ih =>
    have hcs := ih fun d hd => h d (List.mem_append_left _ hd)
    have hc := digitValue_lt (h c (by simp))
    rw [digitsValue_append, List.length_append, List.length_singleton, Nat.pow_succ]
    simp only [List.foldl_cons, List.foldl_nil]
    omega

/-- Zeros in front do not count. -/
theorem digitsValue_replicate_append (k : Nat) (cs : List Char) :
    digitsValue (List.replicate k '0' ++ cs) = digitsValue cs := by
  have hzeros : digitsValue (List.replicate k '0') = 0 := by
    induction k with
    | zero => rfl
    | succ k ih =>
      rw [List.replicate_succ', digitsValue_append, ih]
      rfl
  rw [digitsValue_append, hzeros]
  rfl

theorem toList_padded (width n : Nat) : (padded width n).toList =
    List.replicate (width - (natDigits n).length) '0' ++ natDigits n := by
  rw [padded, String.toList_ofList]

theorem isDigit_of_mem_padded (h : c ∈ (padded width n).toList) : c.isDigit := by
  rw [toList_padded] at h
  rcases List.mem_append.mp h with h | h
  · rw [List.eq_of_mem_replicate h]
    decide
  · exact isDigit_of_mem_natDigits h

theorem length_padded (hw : 0 < width) (h : n < 10 ^ width) :
    (padded width n).toList.length = width := by
  have hle : (natDigits n).length ≤ width := (Nat.length_toDigits_le_iff (by decide) hw).mpr h
  rw [toList_padded, List.length_append, List.length_replicate]
  omega

theorem digitsValue_padded (width n : Nat) : digitsValue (padded width n).toList = n := by
  rw [toList_padded, digitsValue_replicate_append, digitsValue_natDigits]

/-- **A row of digits is read back.** -/
theorem digitsAtFront?_padded (hw : 0 < width) (h : n < 10 ^ width) (rest : List Char) :
    digitsAtFront? width ((padded width n).toList ++ rest) = some (n, rest) := by
  have hlength := length_padded hw h
  have htake : ((padded width n).toList ++ rest).take width = (padded width n).toList := by
    rw [List.take_append_of_le_length hlength.ge, List.take_of_length_le hlength.le]
  have hdrop : ((padded width n).toList ++ rest).drop width = rest := by
    rw [List.drop_append_of_le_length hlength.ge, List.drop_of_length_le hlength.le,
      List.nil_append]
  have hall : (padded width n).toList.all Char.isDigit :=
    List.all_eq_true.mpr fun _ => isDigit_of_mem_padded
  simp only [digitsAtFront?, htake, hdrop, hlength, hall, decide_true, Bool.and_self, if_true,
    digitsValue_padded]

theorem lt_of_digitsAtFront? {count : Nat} {rest : List Char}
    (h : digitsAtFront? count cs = some (n, rest)) : n < 10 ^ count := by
  unfold digitsAtFront? at h
  simp only [Option.ite_none_right_eq_some, Bool.and_eq_true, decide_eq_true_eq,
    List.all_eq_true, Option.some.injEq, Prod.mk.injEq] at h
  obtain ⟨⟨hlength, hall⟩, rfl, -⟩ := h
  have hlt := digitsValue_lt hall
  rwa [hlength] at hlt

end Number

/-! ## Dates -/

/-- **A date is read back**, whatever follows it. -/
theorem Date.atFront_text {d : Date} (h : d.Valid) (rest : List Char) :
    Date.atFront (d.text.toList ++ rest) = .ok (d, rest) := by
  have hyear := h.year
  obtain ⟨hmonth, hmonth'⟩ := h.month
  obtain ⟨hday, hday'⟩ := h.day
  have hlength : d.day < 10 ^ 2 := by
    have hle : Date.monthLength d.year d.month ≤ 31 := by
      unfold Date.monthLength
      split <;> (try split) <;> omega
    omega
  have htext : d.text.toList ++ rest = (padded 4 d.year).toList ++ '-' ::
      ((padded 2 d.month).toList ++ '-' :: ((padded 2 d.day).toList ++ rest)) := by
    simp [Date.text]
  have hlong : ¬(d.text.toList ++ rest).length < 10 := by
    rw [htext]
    simp only [List.length_append, List.length_cons]
    rw [length_padded (by decide) (show d.year < 10 ^ 4 by omega),
      length_padded (by decide) (show d.month < 10 ^ 2 by omega), length_padded (by decide) hlength]
    omega
  unfold Date.atFront
  rw [if_neg hlong, htext]
  simp only [digitsAtFront?_padded (show 0 < 4 by decide) (show d.year < 10 ^ 4 by omega),
    digitsAtFront?_padded (show 0 < 2 by decide) (show d.month < 10 ^ 2 by omega),
    digitsAtFront?_padded (show 0 < 2 by decide) hlength, afterChar?, if_true]
  rw [if_neg (by omega), if_neg (by omega)]

/-! ## Times of day -/

namespace Moment

/-- What may follow the seconds: an offset, or nothing. -/
def BeginsOffset (rest : List Char) : Prop := ∀ c ∈ rest.head?, c = 'Z' ∨ c = '+' ∨ c = '-'

variable {rest : List Char}

theorem takeWhile_of_beginsOffset {cs : List Char} (hcs : ∀ c ∈ cs, c.isDigit)
    (h : BeginsOffset rest) : (cs ++ rest).takeWhile Char.isDigit = cs := by
  rw [List.takeWhile_append_of_pos hcs]
  cases rest with
  | nil => simp
  | cons c rest =>
    have hc : c.isDigit = false := by rcases h c rfl with rfl | rfl | rfl <;> decide
    simp [hc]

theorem millionths_padded {microsecond : Nat} (h : microsecond < 1000000) :
    millionths (padded 6 microsecond).toList = microsecond := by
  have hlength := length_padded (show 0 < 6 by decide) h
  rw [millionths, hlength, List.take_of_length_le hlength.le, digitsValue_padded]
  simp

/-- **The seconds and their fraction are read back.** -/
theorem secondsAtFront?_text {second microsecond : Nat} (hs : second ≤ 59)
    (hm : microsecond < 1000000) (hrest : BeginsOffset rest) :
    secondsAtFront? (':' :: ((padded 2 second).toList ++
      ((if microsecond = 0 then "" else "." ++ padded 6 microsecond).toList ++ rest))) =
      some (second, microsecond, rest) := by
  unfold secondsAtFront?
  simp only [digitsAtFront?_padded (show 0 < 2 by decide) (show second < 10 ^ 2 by omega),
    Option.bind_eq_bind, Option.bind_some, if_neg (show ¬59 < second by omega)]
  by_cases hzero : microsecond = 0
  · subst hzero
    cases rest with
    | nil => rfl
    | cons c rest =>
      have hc : ¬(c = '.' ∨ c = ',') := by rcases hrest c rfl with rfl | rfl | rfl <;> decide
      simp [hc]
  · have hpoint : (if microsecond = 0 then "" else "." ++ padded 6 microsecond).toList ++ rest =
        '.' :: ((padded 6 microsecond).toList ++ rest) := by
      simp [hzero]
    have hlength := length_padded (show 0 < 6 by decide) hm
    have hne : (padded 6 microsecond).toList.isEmpty = false := by
      rw [List.isEmpty_eq_false_iff]
      exact List.ne_nil_of_length_pos (by omega)
    have hdrop : ((padded 6 microsecond).toList ++ rest).drop (padded 6 microsecond).toList.length =
        rest := List.drop_left
    rw [hpoint]
    simp only [true_or, if_true, takeWhile_of_beginsOffset (fun _ => isDigit_of_mem_padded) hrest,
      hne, Bool.false_eq_true, if_false, hdrop, millionths_padded hm]

/-- The characters of an offset, if there is one. -/
def offsetChars (offset : Option Int) : List Char :=
  (match offset with
    | none => ""
    | some microseconds => offsetText microseconds).toList

variable {o : Int}

theorem offsetChars_of_eq_zero (h : nearestSeconds o = 0) : offsetChars (some o) = ['Z'] := by
  unfold offsetChars offsetText
  simp only [if_pos h]
  rfl

theorem offsetChars_of_ne_zero (h : nearestSeconds o ≠ 0) : offsetChars (some o) =
    (if nearestSeconds o < 0 then '-' else '+') ::
      ((padded 2 ((nearestSeconds o).natAbs / 3600)).toList ++
        ':' :: (padded 2 ((nearestSeconds o).natAbs / 60 % 60)).toList) := by
  unfold offsetChars offsetText
  simp only [if_neg h]
  by_cases hneg : nearestSeconds o < 0 <;> simp [hneg]

theorem beginsOffset_offsetChars (offset : Option Int) : BeginsOffset (offsetChars offset) := by
  intro c hc
  cases offset with
  | none => cases hc
  | some o =>
    by_cases h : nearestSeconds o = 0
    · rw [offsetChars_of_eq_zero h] at hc
      cases hc
      exact Or.inl rfl
    · rw [offsetChars_of_ne_zero h, List.head?_cons, Option.mem_some] at hc
      subst hc
      by_cases hneg : nearestSeconds o < 0 <;> simp [hneg]

theorem nearestSeconds_mul_minuteLength (minutes : Int) :
    nearestSeconds (minutes * minuteLength) = minutes * 60 := by
  obtain ⟨n, rfl | rfl⟩ := minutes.eq_nat_or_neg
  · unfold nearestSeconds minuteLength
    rcases Nat.eq_zero_or_pos n with rfl | hn
    · rfl
    · rw [Int.sign_eq_one_of_pos (by omega)]
      omega
  · unfold nearestSeconds minuteLength
    rcases Nat.eq_zero_or_pos n with rfl | hn
    · rfl
    · rw [Int.sign_eq_neg_one_of_neg (by omega)]
      omega

/-- **An offset of whole minutes is read back.** -/
theorem offset?_text {offset : Option Int} (h : ∀ o ∈ offset, IsOffset o) :
    offset? (offsetChars offset) = some offset := by
  cases offset with
  | none => rfl
  | some o =>
    obtain ⟨minutes, rfl, hbound⟩ := h o rfl
    have hseconds := nearestSeconds_mul_minuteLength minutes
    by_cases hzero : minutes = 0
    · subst hzero
      rfl
    · have hhours := digitsAtFront?_padded (show 0 < 2 by decide)
        (show minutes.natAbs / 60 < 10 ^ 2 by omega)
        (':' :: (padded 2 (minutes.natAbs % 60)).toList)
      have hminutes := digitsAtFront?_padded (show 0 < 2 by decide)
        (show minutes.natAbs % 60 < 10 ^ 2 by omega) []
      rw [List.append_nil] at hminutes
      have hchars : offsetChars (some (minutes * minuteLength)) =
          (if minutes < 0 then '-' else '+') :: ((padded 2 (minutes.natAbs / 60)).toList ++
            ':' :: (padded 2 (minutes.natAbs % 60)).toList) := by
        have hwhole : (minutes * 60).natAbs / 3600 = minutes.natAbs / 60 := by omega
        have hrest : (minutes * 60).natAbs / 60 % 60 = minutes.natAbs % 60 := by omega
        have hsign : minutes * 60 < 0 ↔ minutes < 0 := by omega
        rw [offsetChars_of_ne_zero (by omega), hseconds, hwhole, hrest]
        simp only [hsign]
      rw [hchars]
      obtain ⟨sign, factor, hsign, hread, hvalue⟩ : ∃ sign factor,
          (if minutes < 0 then '-' else '+') = sign ∧ (∀ cs, signAtFront? (sign :: cs) =
            some (factor, cs)) ∧ factor * (60 * (minutes.natAbs / 60 : ℕ) +
              (minutes.natAbs % 60 : ℕ)) = minutes := by
        by_cases hneg : minutes < 0
        · exact ⟨'-', -1, if_pos hneg, fun _ => rfl, by omega⟩
        · exact ⟨'+', 1, if_neg hneg, fun _ => rfl, by omega⟩
      have hone : (padded 2 (minutes.natAbs / 60)).toList ++
          ':' :: (padded 2 (minutes.natAbs % 60)).toList ≠ [] := by simp
      rw [hsign]
      unfold offset?
      split
      · next heq => cases heq
      · next heq => exact absurd (List.cons.inj heq).2 hone
      · next heq => exact absurd (List.cons.inj heq).2 hone
      · simp only [hread, hhours, hminutes, Option.bind_eq_bind, Option.bind_some, List.isEmpty_nil,
          Bool.not_true, Bool.false_eq_true, or_false, hvalue]
        rw [if_neg (by omega)]

/-! ## Moments -/

/-- The parts of a moment in writing. -/
theorem toList_text (m : Moment) : m.text.toList = m.date.text.toList ++ 'T' ::
    ((padded 2 m.hour).toList ++ ':' :: ((padded 2 m.minute).toList ++
      ':' :: ((padded 2 m.second).toList ++
        ((if m.microsecond = 0 then "" else "." ++ padded 6 m.microsecond).toList ++
          offsetChars m.offset)))) := by
  have hT : "T".toList = ['T'] := rfl
  have hcolon : ":".toList = [':'] := rfl
  simp only [text, String.toList_append, hT, hcolon, List.append_assoc, List.singleton_append]
  rfl

/-- **A moment with a time of day is read back.** -/
theorem withTime?_text {m : Moment} (h : m.Valid) : withTime? m.text.toList = some m := by
  have hhour := h.hour
  have hminute := h.minute
  rw [toList_text]
  simp only [withTime?, Date.atFront_text h.date, Except.toOption, Option.bind_eq_bind,
    Option.bind_some, List.head?_cons, List.tail_cons, Option.map_some,
    digitsAtFront?_padded (show 0 < 2 by decide) (show m.hour < 10 ^ 2 by omega),
    digitsAtFront?_padded (show 0 < 2 by decide) (show m.minute < 10 ^ 2 by omega), afterChar?,
    if_true, secondsAtFront?_text h.second h.microsecond (beginsOffset_offsetChars _),
    offset?_text h.offset]
  rw [if_neg (by decide), if_neg (by omega)]

theorem isAscii_of_all {cs : List Char} (h : cs.all (·.toNat < 128)) :
    ∀ c ∈ cs, c.toNat < 128 :=
  fun c hc => of_decide_eq_true (List.all_eq_true.mp h c hc)

theorem isAscii_padded (width n : Nat) : ∀ c ∈ (padded width n).toList, c.toNat < 128 := by
  intro c hc
  have hdigit := isDigit_of_mem_padded hc
  simp only [Char.isDigit, Bool.and_eq_true, decide_eq_true_eq] at hdigit
  have hle : c.toNat ≤ 57 := hdigit.2
  omega

theorem isAscii_offsetChars (offset : Option Int) : ∀ c ∈ offsetChars offset, c.toNat < 128 := by
  cases offset with
  | none => nofun
  | some o =>
    by_cases h : nearestSeconds o = 0
    · rw [offsetChars_of_eq_zero h]
      exact isAscii_of_all (by decide)
    · rw [offsetChars_of_ne_zero h, List.forall_mem_cons, List.forall_mem_append,
        List.forall_mem_cons]
      refine ⟨?_, isAscii_padded _ _, by decide, isAscii_padded _ _⟩
      split <;> decide

/-- **Moments are written in ASCII.** -/
theorem isAscii_text (m : Moment) : ∀ c ∈ m.text.toList, c.toNat < 128 := by
  have hdash : ∀ c ∈ "-".toList, c.toNat < 128 := isAscii_of_all (by decide)
  have hfraction : ∀ c ∈ (if m.microsecond = 0 then "" else "." ++ padded 6 m.microsecond).toList,
      c.toNat < 128 := by
    split
    · nofun
    · rw [String.toList_append, List.forall_mem_append]
      exact ⟨isAscii_of_all (by decide), isAscii_padded _ _⟩
  rw [toList_text, Date.text]
  simp only [String.toList_append, List.forall_mem_append, List.forall_mem_cons]
  exact ⟨⟨⟨⟨⟨isAscii_padded _ _, hdash⟩, isAscii_padded _ _⟩, hdash⟩, isAscii_padded _ _⟩,
    by decide, isAscii_padded _ _, by decide, isAscii_padded _ _, by decide, isAscii_padded _ _,
    hfraction, isAscii_offsetChars _⟩

/-- **A moment is read back from its text.** -/
theorem read_text {m : Moment} (h : m.Valid) : Moment.read m.text = .ok m := by
  have hyear : ¬m.date.year = 0 := Nat.one_le_iff_ne_zero.mp h.year
  rw [read, Utf8.map_ofNat_encode (isAscii_text m)]
  simp only [withTime?_text h, checked, if_neg hyear]

end Moment

end Gazetteer
