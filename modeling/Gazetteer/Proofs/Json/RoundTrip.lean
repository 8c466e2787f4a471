import Gazetteer.Json.Reader
import Gazetteer.Proofs.Json.Tokens

/-!
# Written values are read back

A value is written without gaps and read token by token.  Whatever values are open around it, and
whatever follows it, the reader has the value once its characters are consumed: a scalar is one
token, and the items of an array and the fields of an object are read one after the other.

* `Plain`: the values in question, and how deep they are;
* `ReadsBack`: a value is read back within others; `readsBack_array`, `readsBack_object`;
* `readWithin_render`: the text of a plain value is read as the value.
-/

namespace Gazetteer.Json

open Number Text

/-- **A name under which a field is kept as it is.** -/
def IsPlainName (name : String) : Prop := ∀ c ∈ name.toList, c.toNat ≠ escapePoint

instance (name : String) : Decidable (IsPlainName name) :=
  List.decidableBAll (fun c : Char => c.toNat ≠ escapePoint) name.toList

/-- **A whole number that is converted** if numbers of so many digits are. -/
def IsShort (digits : Option Nat) (n : Int) : Prop :=
  ∀ greatest ∈ digits, (natDigits n.natAbs).length ≤ greatest

/-- **A value without numbers with a point and without torn texts**, whose whole numbers are
converted, whose objects have every name once and under itself, and in which nothing lies within
more than so many other values. -/
inductive Plain (digits : Option Nat) : Nat → Json → Prop
  | null {height : Nat} : Plain digits height .null
  | bool {height : Nat} (b : Bool) : Plain digits height (.bool b)
  | int {height : Nat} {n : Int} (h : IsShort digits n) : Plain digits height (.int n)
  | text {height : Nat} (s : String) : Plain digits height (.text s)
  | array {height : Nat} {vs : List Json} (h : ∀ v ∈ vs, Plain digits height v) :
      Plain digits (height + 1) (.array vs)
  | object {height : Nat} {fields : List (String × Json)} (names : (fields.map (·.1)).Nodup)
      (plainly : ∀ n ∈ fields.map (·.1), IsPlainName n)
      (h : ∀ f ∈ fields, Plain digits height f.2) : Plain digits (height + 1) (.object fields)

/-- Whether so many more values are followed within those that are open. -/
def HasRoom (limits : Limits) (open_ : List Frame) (height : Nat) : Prop :=
  ∀ n ∈ limits.depth, open_.length + height ≤ n

/-- **A value is read back within others**: its first token ends no array, and once its characters
are consumed the reader has it. -/
def ReadsBack (limits : Limits) (height : Nat) (v : Json) : Prop :=
  ∀ (open_ : List Frame) (offset : Nat) (rest : List Char), HasRoom limits open_ height →
    Delimits rest → ∃ t ts, tokensFrom 0 offset (chars v ++ rest) = (offset, t) :: ts ∧
      t ≠ .closeBracket ∧ run limits (.value open_) ((offset, t) :: ts) =
        run limits (.after v open_) (tokensFrom 0 (offset + (chars v).length) rest)

variable {limits : Limits} {height : Nat} {v : Json} {open_ : List Frame}

/-! ## Steps -/

theorem run_cons {reading next : Reading} {offset : Nat} {t : Token} (ts : List (Nat × Token))
    (h : step limits offset reading t = .ok next) :
    run limits reading ((offset, t) :: ts) = run limits next ts := by
  rw [run, h]

theorem isTooDeep_of_hasRoom (h : HasRoom limits open_ (height + 1)) :
    limits.isTooDeep open_ = false := by
  unfold Limits.isTooDeep
  split
  · next n hdepth =>
    have hn := h n hdepth
    exact decide_eq_false (by omega)
  · rfl

theorem problem?_of_isShort {n : Int} (h : IsShort limits.digits n) :
    limits.problem? (.int n) = none := by
  have hfilter : limits.digits.filter (· < (natDigits n.natAbs).length) = none := by
    refine Option.filter_eq_none_iff.mpr fun greatest hgreatest => ?_
    have hle := h greatest hgreatest
    simpa using hle
  rw [Limits.problem?, hfilter, Option.map_none]

theorem HasRoom.cons {frame : Frame} (h : HasRoom limits open_ (height + 1)) :
    HasRoom limits (frame :: open_) height := by
  intro n hn
  have hroom := h n hn
  rw [List.length_cons]
  omega

/-- A mark between values is one token. -/
theorem tokensFrom_mark {c : Char} {t : Token} (hgap : isGap c = false)
    (h : ∀ rest, tokenAt c rest = (t, 1)) (offset : Nat) (rest : List Char) :
    tokensFrom 0 offset (c :: rest) = (offset, t) :: tokensFrom 0 (offset + 1) rest :=
  tokensFrom_append hgap (show tokenAt c ([] ++ rest) = (t, 1) from h rest) offset

theorem delimits_comma (rest : List Char) : Delimits (',' :: rest) := by
  rintro c ⟨⟩
  exact Or.inl rfl

theorem delimits_closeBracket (rest : List Char) : Delimits (']' :: rest) := by
  rintro c ⟨⟩
  exact Or.inr (Or.inl rfl)

theorem delimits_closeBrace (rest : List Char) : Delimits ('\x7d' :: rest) := by
  rintro c ⟨⟩
  exact Or.inr (Or.inr rfl)

/-! ## Arrays -/

theorem run_firstItem {offset : Nat} {t : Token} (ht : t ≠ .closeBracket)
    (ts : List (Nat × Token)) : run limits (.firstItem open_) ((offset, t) :: ts) =
      run limits (.value (.items [] :: open_)) ((offset, t) :: ts) := by
  have hstep : step limits offset (.firstItem open_) t =
      step limits offset (.value (.items [] :: open_)) t := by
    cases t with
    | closeBracket => exact absurd rfl ht
    | _ => rfl
  rw [run, run, hstep]

/-- **The items of an array are read one after the other**, to its closing bracket. -/
theorem run_items {vs : List Json} (hvs : ∀ w ∈ v :: vs, ReadsBack limits height w)
    (hroom : HasRoom limits open_ (height + 1)) (before : List Json) (offset : Nat)
    (rest : List Char) :
    run limits (.value (.items before :: open_))
        (tokensFrom 0 offset (itemChars (v :: vs) ++ rest)) =
      run limits (.after (.array (before ++ v :: vs)) open_)
        (tokensFrom 0 (offset + (itemChars (v :: vs)).length) rest) := by
  have hv := hvs v List.mem_cons_self
  induction vs generalizing v before offset with
  | nil =>
    obtain ⟨t, ts, htokens, -, hrun⟩ := hv _ offset _ hroom.cons (delimits_closeBracket rest)
    rw [itemChars, List.append_assoc, List.singleton_append, htokens, hrun,
      tokensFrom_mark (by decide) (fun _ => rfl), run_cons _ rfl, List.length_append,
      List.length_singleton, Nat.add_assoc]
  | cons w vs ih =>
    obtain ⟨t, ts, htokens, -, hrun⟩ := hv _ offset _ hroom.cons
      (delimits_comma (itemChars (w :: vs) ++ rest))
    rw [itemChars, List.append_assoc, List.cons_append, htokens, hrun,
      tokensFrom_mark (by decide) (fun _ => rfl), run_cons _ rfl,
      ih (fun u hu => hvs u (List.mem_cons_of_mem v hu)) _ _ (hvs w (by simp)), List.append_assoc,
      List.singleton_append, List.length_append, List.length_cons]
    congr 2
    omega

theorem itemChars_cons (v : Json) (vs : List Json) (rest : List Char) :
    ∃ more, itemChars (v :: vs) ++ rest = chars v ++ more ∧ Delimits more := by
  cases vs with
  | nil =>
    refine ⟨']' :: rest, ?_, delimits_closeBracket rest⟩
    rw [itemChars, List.append_assoc, List.singleton_append]
  | cons w vs =>
    refine ⟨',' :: (itemChars (w :: vs) ++ rest), ?_, delimits_comma _⟩
    rw [itemChars, List.append_assoc, List.cons_append]

theorem readsBack_array {vs : List Json} (h : ∀ v ∈ vs, ReadsBack limits height v) :
    ReadsBack limits (height + 1) (.array vs) := by
  intro open_ offset rest hroom _
  have hstart : step limits offset (.value open_) .openBracket = .ok (.firstItem open_) := by
    simp [step, startValue, isTooDeep_of_hasRoom hroom]
  rw [chars, List.cons_append]
  refine ⟨.openBracket, _, tokensFrom_mark (by decide) (fun _ => rfl) offset _, nofun, ?_⟩
  have hlength : offset + ((itemChars vs).length + 1) = offset + 1 + (itemChars vs).length := by
    omega
  rw [run_cons _ hstart, List.length_cons, hlength]
  cases vs with
  | nil => rw [itemChars, List.singleton_append, tokensFrom_mark (by decide) (fun _ => rfl),
      run_cons _ rfl, List.length_singleton]
  | cons v vs =>
    obtain ⟨more, hmore, hdelimits⟩ := itemChars_cons v vs rest
    obtain ⟨t, ts, htokens, ht, -⟩ := h v List.mem_cons_self (.items [] :: open_) (offset + 1) more
      hroom.cons hdelimits
    rw [← hmore] at htokens
    have hitems := run_items h hroom [] (offset + 1) rest
    rw [List.nil_append] at hitems
    rw [← hitems, htokens, run_firstItem ht]

/-! ## Objects -/

theorem put_of_not_mem {name : String} {fields : List (String × Json)}
    (h : name ∉ fields.map (·.1)) : put name v fields = fields ++ [(name, v)] := by
  induction fields with
  | nil => rfl
  | cons f fields ih =>
    simp only [List.map_cons, List.mem_cons, not_or] at h
    rw [put, if_neg (Ne.symm h.1), ih h.2, List.cons_append]

theorem fieldName_toNat {name : String} (h : IsPlainName name) :
    fieldName (name.toList.map Char.toNat) = name := by
  have hchars : name.toList.flatMap (nameChars ∘ Char.toNat) =
      name.toList.flatMap fun c => [c] := by
    refine List.flatMap_congr fun c hc => ?_
    rw [Function.comp_apply, nameChars, isHalf_toNat, if_neg (by decide), if_neg (h c hc),
      Char.ofNat_toNat]
  rw [fieldName, List.flatMap_map, ← Function.comp_def, hchars, List.flatMap_singleton',
    String.ofList_toList]

/-- A field is added under its name. -/
theorem addField_toNat {name : String} {before : List (String × Json)} (hname : IsPlainName name)
    (h : name ∉ before.map (·.1)) :
    addField (name.toList.map Char.toNat) v before = before ++ [(name, v)] := by
  have hnamed : named (name.toList.map Char.toNat) v = v := by
    rw [named, if_neg]
    simp only [List.any_eq_true, List.mem_map, not_exists, not_and]
    rintro _ ⟨c, hc, rfl⟩
    simp [isEscaped, isHalf_toNat, hname c hc]
  rw [addField, fieldName_toNat hname, hnamed, put_of_not_mem h]

theorem Plain.nameLiteral {digits : Option Nat} (h : Plain digits height v) (name : String) :
    nameLiteral name v = literal name := by
  cases h <;> rfl

/-- A comma or a brace after a value ends its field. -/
theorem step_comma {before : List (String × Json)} {points : List Nat} {offset : Nat} :
    step limits offset (.after v (.field before points :: open_)) .comma =
      .ok (.name (addField points v before) open_) := rfl

theorem step_closeBrace {before : List (String × Json)} {points : List Nat} {offset : Nat} :
    step limits offset (.after v (.field before points :: open_)) .closeBrace =
      .ok (.after (.object (addField points v before)) open_) := rfl

/-- A field is read up to the end of its value. -/
theorem run_field (name : String) (hv : ReadsBack limits height v)
    (hroom : HasRoom limits open_ (height + 1)) {before : List (String × Json)} {reading : Reading}
    (hreading : ∀ offset points,
      step limits offset reading (.string points) = .ok (.colon before points open_))
    (offset : Nat) {rest : List Char} (hrest : Delimits rest) :
    run limits reading (tokensFrom 0 offset (literal name ++ ':' :: (chars v ++ rest))) =
      run limits (.after v (.field before (name.toList.map Char.toNat) :: open_))
        (tokensFrom 0 (offset + (literal name ++ ':' :: chars v).length) rest) := by
  have hlength : offset + (literal name ++ ':' :: chars v).length =
      offset + (literal name).length + 1 + (chars v).length := by
    rw [List.length_append, List.length_cons]
    omega
  obtain ⟨t, ts, htokens, -, hrun⟩ := hv (.field before (name.toList.map Char.toNat) :: open_)
    (offset + (literal name).length + 1) rest hroom.cons hrest
  rw [tokensFrom_literal, run_cons _ (hreading _ _), tokensFrom_mark (by decide) (fun _ => rfl),
    run_cons _ rfl, htokens, hrun, hlength]

/-- **The fields of an object are read one after the other**, to its closing brace. -/
theorem run_fields {name : String} {fields : List (String × Json)}
    (hfields : ∀ f ∈ (name, v) :: fields,
      ReadsBack limits height f.2 ∧ Plain limits.digits height f.2 ∧ IsPlainName f.1)
    (hroom : HasRoom limits open_ (height + 1)) (before : List (String × Json))
    (hnames : ((before ++ (name, v) :: fields).map (·.1)).Nodup) (reading : Reading)
    (hreading : ∀ offset points,
      step limits offset reading (.string points) = .ok (.colon before points open_))
    (offset : Nat) (rest : List Char) :
    run limits reading (tokensFrom 0 offset (fieldChars ((name, v) :: fields) ++ rest)) =
      run limits (.after (.object (before ++ (name, v) :: fields)) open_)
        (tokensFrom 0 (offset + (fieldChars ((name, v) :: fields)).length) rest) := by
  induction fields generalizing name v before reading offset with
  | nil =>
    obtain ⟨hv, hplain, hplainly⟩ := hfields _ List.mem_cons_self
    have hname : name ∉ before.map (·.1) := by
      rw [List.map_append, List.map_cons, List.nodup_append] at hnames
      exact fun hmem => hnames.2.2 name hmem name List.mem_cons_self rfl
    have hrun := run_field name hv hroom hreading offset (delimits_closeBrace rest)
    rw [fieldChars, hplain.nameLiteral, List.append_assoc, List.append_assoc, List.cons_append,
      List.singleton_append, hrun, tokensFrom_mark (by decide) (fun _ => rfl),
      run_cons _ step_closeBrace,
      addField_toNat hplainly hname]
    simp only [List.length_append, List.length_cons, List.length_nil, Nat.add_assoc]
  | cons f fields ih =>
    obtain ⟨hv, hplain, hplainly⟩ := hfields _ List.mem_cons_self
    obtain ⟨next, w⟩ := f
    have hname : name ∉ before.map (·.1) := by
      rw [List.map_append, List.map_cons, List.nodup_append] at hnames
      exact fun hmem => hnames.2.2 name hmem name List.mem_cons_self rfl
    have hrun := run_field name hv hroom hreading offset
      (delimits_comma (fieldChars ((next, w) :: fields) ++ rest))
    have hmore := ih (fun f hf => hfields f (List.mem_cons_of_mem _ hf)) (before ++ [(name, v)])
      (by simpa [List.append_assoc] using hnames) (.name (before ++ [(name, v)]) open_)
      (fun _ _ => rfl)
      (offset + (literal name ++ ':' :: chars v).length + 1)
    rw [fieldChars, hplain.nameLiteral, List.append_assoc, List.append_assoc, List.cons_append,
      List.cons_append, hrun, tokensFrom_mark (by decide) (fun _ => rfl),
      run_cons _ step_comma,
      addField_toNat hplainly hname, hmore, List.append_assoc, List.singleton_append]
    simp only [List.length_append, List.length_cons]
    congr 2
    omega

theorem readsBack_object {fields : List (String × Json)} (hnames : (fields.map (·.1)).Nodup)
    (h : ∀ f ∈ fields,
      ReadsBack limits height f.2 ∧ Plain limits.digits height f.2 ∧ IsPlainName f.1) :
    ReadsBack limits (height + 1) (.object fields) := by
  intro open_ offset rest hroom _
  have hstart : step limits offset (.value open_) .openBrace = .ok (.firstName open_) := by
    simp [step, startValue, isTooDeep_of_hasRoom hroom]
  have hlength : offset + ((fieldChars fields).length + 1) =
      offset + 1 + (fieldChars fields).length := by
    omega
  rw [chars, List.cons_append]
  refine ⟨.openBrace, _, tokensFrom_mark (by decide) (fun _ => rfl) offset _, nofun, ?_⟩
  rw [run_cons _ hstart, List.length_cons, hlength]
  cases fields with
  | nil => rw [fieldChars, List.singleton_append, tokensFrom_mark (by decide) (fun _ => rfl),
      run_cons _ rfl, List.length_singleton]
  | cons f fields => exact run_fields h hroom [] hnames _ (fun _ _ => rfl) _ _

/-! ## Values that have a text -/

theorem isWholeItems_iff {vs : List Json} : isWholeItems vs ↔ ∀ v ∈ vs, v.isWhole := by
  induction vs with
  | nil => simp [isWholeItems]
  | cons v vs ih => simp [isWholeItems, ih]

theorem isWholeFields_iff {fields : List (String × Json)} :
    isWholeFields fields ↔ ∀ f ∈ fields, f.2.isWhole := by
  induction fields with
  | nil => simp [isWholeFields]
  | cons f fields ih =>
    obtain ⟨name, v⟩ := f
    simp [isWholeFields, ih]

theorem render?_eq_some_iff {s : String} : v.render? = some s ↔ v.isWhole ∧ s = v.render := by
  unfold render?
  split
  · next h => simp [h, eq_comm]
  · next h => simp [h]

/-! ## Plain values -/

/-- **A plain value has a text.** -/
theorem Plain.isWhole {digits : Option Nat} (h : Plain digits height v) : v.isWhole := by
  induction h with
  | null => rfl
  | bool b => rfl
  | int h => rfl
  | text s => rfl
  | array _ ih =>
    rw [Json.isWhole]
    exact isWholeItems_iff.mpr ih
  | object _ _ _ ih =>
    rw [Json.isWhole]
    exact isWholeFields_iff.mpr ih

/-- A value that is written as one token is read back. -/
theorem readsBack_of_token {t : Token} (htoken : ∀ offset rest, Delimits rest →
      tokensFrom 0 offset (chars v ++ rest) =
        (offset, t) :: tokensFrom 0 (offset + (chars v).length) rest)
    (ht : t ≠ .closeBracket)
    (hstart : ∀ offset open_, startValue limits offset open_ t = .ok (.after v open_)) :
    ReadsBack limits height v := by
  intro open_ offset rest _ hrest
  exact ⟨t, _, htoken offset rest hrest, ht, run_cons _ (hstart offset open_)⟩

/-- **A plain value is read back within others**, if it is not too deep. -/
theorem Plain.readsBack (h : Plain limits.digits height v) : ReadsBack limits height v := by
  induction h with
  | null =>
    exact readsBack_of_token (fun offset rest _ => tokensFrom_null offset rest) nofun fun _ _ => rfl
  | bool b =>
    exact readsBack_of_token (fun offset rest _ => tokensFrom_bool b offset rest) nofun
      fun _ _ => rfl
  | int hn =>
    refine readsBack_of_token (fun offset rest hrest => tokensFrom_intText _ hrest offset) nofun
      fun _ _ => ?_
    rw [startValue, problem?_of_isShort hn]
  | text s =>
    refine readsBack_of_token (fun offset rest _ => tokensFrom_literal s offset rest) nofun
      fun _ _ => ?_
    rw [startValue, ofPoints_toNat]
  | array _ ih => exact readsBack_array ih
  | object names plainly hplain ih =>
    exact readsBack_object names fun f hf =>
      ⟨ih f hf, hplain f hf, plainly f.1 (List.mem_map_of_mem hf)⟩

/-- **The text of a plain value is read as the value.** -/
theorem readWithin_render (h : Plain limits.digits height v)
    (hdepth : ∀ n ∈ limits.depth, height ≤ n) : readWithin limits v.render = .ok v := by
  have hroom : HasRoom limits [] height := by simpa [HasRoom] using hdepth
  have hback : ReadsBack limits height v := h.readsBack
  obtain ⟨t, ts, htokens, -, hrun⟩ := hback [] 0 [] hroom nofun
  rw [List.append_nil] at htokens
  rw [readWithin, render, String.toList_ofList, tokens, htokens, hrun]
  rfl

end Gazetteer.Json
