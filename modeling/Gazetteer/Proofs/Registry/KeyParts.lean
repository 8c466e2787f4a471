import Gazetteer.Proofs.Json.Points
import Gazetteer.Proofs.Registry.Key
import Gazetteer.Proofs.Text.Percent
import Mathlib.Data.List.Forall2

/-!
# Parts of keys are decodable

What is put into the key of a page can be read from it again: each part is made of a few characters
of ASCII and of complete escapes, and its octets are those of the text in it.  So the key of a page,
split at its colons, tells the nine fields of the request.  A torn text has no octets, and is
refused as a part; told is where it is torn.

* `Encodes`: the form of a part, and what it denotes;
* `Fault.Tells`, `fault?_eq_some_iff`: where a text is torn;
* `rendered`: the fields of a request as texts;
* `DecodableParts`, `decodableParts`: the statement about all parts and all keys of pages.
-/

namespace Gazetteer.Key

open Json Number Search Text

/-! ## One part -/

/-- The characters that stand for themselves: the letters and digits of ASCII, and a few others. -/
def IsPlain (c : Char) : Prop := c.isAlphanum ∨ c ∈ ['_', '.', '-', '~', ' ', '+']

theorem isPlain_of_isKept {c : Char} (h : isKept c) : IsPlain c := by
  simp only [isKept, Percent.isUnreserved, Bool.or_eq_true, decide_eq_true_eq] at h
  simp only [IsPlain, List.mem_cons, List.not_mem_nil, or_false]
  tauto

/-- The text that a part denotes. -/
def decoded (part : List Char) : String := String.ofList (Percent.unescape part)

/-- **A part that stands for a text.** -/
structure Encodes (part : List Char) (s : String) : Prop where
  isEscaped : Percent.IsEscaped IsPlain part
  colon_not_mem : ':' ∉ part
  eq_nil_iff : part = [] ↔ s = ""
  /-- The octets of the part are those of the text in UTF-8, -/
  octets_eq : Percent.octets part = s.toUTF8.data.toList.map UInt8.toNat
  /-- and so the text is read back. -/
  decoded_eq : decoded part = s

/-- **What is put into a key can be read from it.** -/
theorem encodes_part (o : Option String) : Encodes (part o) (o.getD "") := by
  have heq : part o = Percent.escape isKept (o.getD "").toList := by cases o <;> rfl
  rw [heq]
  have hform : Percent.IsEscaped IsPlain (Percent.escape isKept (o.getD "").toList) :=
    Percent.isEscaped_escape (fun _ => isPlain_of_isKept) _
  refine ⟨hform, heq ▸ colon_not_mem_part o, ?_, ?_, ?_⟩
  · rw [Percent.escape_eq_nil_iff isKept_percent, String.toList_eq_nil_iff]
  · rw [Percent.octets_escape isKept_percent, Utf8.encode_toList]
  · rw [decoded, Percent.unescape_escape isKept_percent, String.ofList_toList]

/-! ## Torn texts -/

/-- **Where a text is torn**: the halves in the first row of them, of which none comes before. -/
def Fault.Tells (f : Fault) (points : List Nat) : Prop :=
  ∃ before halves after, points = before ++ f.half :: halves ++ after ∧
    (∀ p ∈ before, isHalf p = false) ∧ (∀ p ∈ f.half :: halves, isHalf p) ∧
    (∀ p ∈ after.head?, isHalf p = false) ∧
    f.first = before.length ∧ f.last = before.length + halves.length

section
variable {q : Nat → Bool} {xs ys points : List Nat}

theorem takeWhile_append_of_head? (hxs : ∀ p ∈ xs, q p) (hys : ∀ p ∈ ys.head?, q p = false) :
    (xs ++ ys).takeWhile q = xs := by
  rw [List.takeWhile_append_of_pos hxs]
  cases ys with
  | nil => exact List.append_nil xs
  | cons y ys => rw [List.takeWhile_cons_of_neg (by simp [hys y rfl]), List.append_nil]

theorem exists_takeWhile_append (q : Nat → Bool) (points : List Nat) :
    ∃ rest, points = points.takeWhile q ++ rest ∧ ∀ p ∈ rest.head?, q p = false := by
  refine ⟨points.dropWhile q, List.takeWhile_append_dropWhile.symm, fun p hp => ?_⟩
  have hhead := List.head?_dropWhile_not q points
  rw [hp] at hhead
  simpa using hhead

theorem fault?_of_whole (h : ∀ p ∈ points, isHalf p = false) : fault? points = none := by
  have htake : points.takeWhile (!isHalf ·) = points :=
    List.takeWhile_eq_self_iff.mpr (by simpa using h)
  simp only [fault?, htake, List.drop_length]

/-- The row of halves that begins where no half comes before. -/
theorem fault?_of_half {before more : List Nat} {half : Nat}
    (hbefore : ∀ p ∈ before, isHalf p = false) (hhalf : isHalf half) :
    fault? (before ++ half :: more) =
      some ⟨half, before.length, before.length + (more.takeWhile isHalf).length⟩ := by
  have htake : (before ++ half :: more).takeWhile (!isHalf ·) = before :=
    takeWhile_append_of_head? (by simpa using hbefore) (by simpa using hhalf)
  simp only [fault?, htake, List.drop_left]

/-- **A text is refused for where it is torn.** -/
theorem fault?_eq_some_iff {f : Fault} : fault? points = some f ↔ f.Tells points := by
  constructor
  · intro h
    obtain ⟨rest, hpoints, hrest⟩ := exists_takeWhile_append (!isHalf ·) points
    have hbefore : ∀ p ∈ points.takeWhile (!isHalf ·), isHalf p = false := fun p hp => by
      simpa using List.mem_takeWhile_imp hp
    cases rest with
    | nil =>
      rw [List.append_nil] at hpoints
      rw [fault?_of_whole (hpoints ▸ hbefore)] at h
      cases h
    | cons half more =>
      have hhalf : isHalf half := by simpa using hrest half rfl
      rw [hpoints, fault?_of_half hbefore hhalf] at h
      obtain ⟨after, hmore, hafter⟩ := exists_takeWhile_append isHalf more
      cases h
      refine ⟨_, more.takeWhile isHalf, after, ?_, hbefore, ?_, hafter, rfl, rfl⟩
      · rw [List.append_assoc, List.cons_append, ← hmore]
        exact hpoints
      · exact List.forall_mem_cons.mpr ⟨hhalf, fun p hp => List.mem_takeWhile_imp hp⟩
  · obtain ⟨half, first, last⟩ := f
    rintro ⟨before, halves, after, rfl, hbefore, hhalves, hafter, rfl, rfl⟩
    obtain ⟨hhalf, hhalves⟩ := List.forall_mem_cons.mp hhalves
    rw [List.append_assoc, List.cons_append, fault?_of_half hbefore hhalf,
      takeWhile_append_of_head? hhalves hafter]

end

/-- A text that is not torn is a part. -/
theorem partOf?_text (s : String) : partOf? (.text s) = .ok (String.ofList (part (some s))) := by
  have hnone : fault? (codePoints s) = none :=
    fault?_of_whole (List.forall_mem_map.mpr fun c _ => isHalf_toNat c)
  simp only [partOf?, points?, Option.bind_some, hnone]
  rfl

/-- **A torn text is no part**, and is told to be torn where it is. -/
theorem partOf?_ofPoints_eq_error_iff {points : List Nat} {f : Fault} :
    partOf? (.ofPoints points) = .error f ↔ f.Tells points := by
  rw [← fault?_eq_some_iff]
  by_cases h : points.any isHalf
  · have hv : ofPoints points = .torn points := if_pos h
    simp only [hv, partOf?, points?, Option.bind_some]
    cases fault? points <;> simp
  · have hv : ofPoints points = .text (textOf points) := if_neg h
    have hnone : fault? points = none := fault?_of_whole (by simpa using h)
    rw [hv, partOf?_text, hnone]
    exact iff_of_false nofun nofun

/-! ## Keys of pages -/

/-- **The fields of a request**, in their order, with an empty text for a filter that is absent. -/
def rendered (r : Request) : List String :=
  [r.name.getD "", r.continent.getD "", r.iso2.getD "", r.iso3.getD "", r.countryCode.getD "",
    natText r.pageNumber, natText r.pageSize, r.sortBy.word, r.direction.word]

theorem rendered_eq (r : Request) : rendered r = (parts r).map (·.getD "") := rfl

/-- **Parts of keys are a decodable encoding** of the texts that are not torn. -/
structure DecodableParts : Prop where
  /-- Any text is a part, and no text at all an empty one. -/
  part : ∀ o : Option String, ∃ part, partOf? ((o.map Json.text).getD .null) =
    .ok (String.ofList part) ∧ Encodes part (o.getD "") ∧ (part = [] ↔ o = none ∨ o = some "")
  /-- A torn text is refused, for where it is torn, and only a torn one is. -/
  torn : ∀ points f, partOf? (.ofPoints points) = .error f ↔ f.Tells points
  /-- The key of a page has nine parts between its colons, one for each field of the request. -/
  search : ∀ r : Request, ∃ rest, search r = searchFamily ++ rest ∧
    (splitAt ':' rest.toList).length = 9 ∧
    (splitAt ':' rest.toList).map decoded = rendered r ∧
    List.Forall₂ Encodes (splitAt ':' rest.toList) (rendered r)

/-- The key of a page, split at its colons. -/
theorem splitAt_search (r : Request) : ∃ rest, search r = searchFamily ++ rest ∧
    splitAt ':' rest.toList = (parts r).map part := by
  refine ⟨_, rfl, ?_⟩
  rw [String.toList_ofList, splitAt_joinWith (by simp [parts])]
  exact List.forall_mem_map.mpr fun o _ => colon_not_mem_part o

/-- **What is put into keys can be read from them.** -/
theorem decodableParts : DecodableParts where
  part o := by
    refine ⟨part o, ?_, encodes_part o, ?_⟩
    · cases o with
      | none => rfl
      | some s => exact partOf?_text s
    · rw [(encodes_part o).eq_nil_iff]
      cases o <;> simp
  torn _ _ := partOf?_ofPoints_eq_error_iff
  search r := by
    obtain ⟨rest, hrest, hsplit⟩ := splitAt_search r
    have hencodes : ∀ o : Option String, decoded (part o) = o.getD "" :=
      fun o => (encodes_part o).decoded_eq
    refine ⟨rest, hrest, ?_, ?_, ?_⟩
    · rw [hsplit, List.length_map]
      rfl
    · rw [hsplit, List.map_map, rendered_eq]
      exact List.map_congr_left fun o _ => hencodes o
    · rw [hsplit, rendered_eq, List.forall₂_map_left_iff, List.forall₂_map_right_iff,
        List.forall₂_same]
      exact fun o _ => encodes_part o

/-- **Half a surrogate pair has no octets**, and so not all texts are parts. -/
theorem not_forall_isPart : partOf? (.ofPoints [0xD800]) = .error ⟨0xD800, 0, 0⟩ ∧
    ¬∀ points, ∃ part, partOf? (.ofPoints points) = .ok part := by
  have herror : partOf? (.ofPoints [0xD800]) = .error ⟨0xD800, 0, 0⟩ := rfl
  refine ⟨herror, fun h => ?_⟩
  obtain ⟨part, hpart⟩ := h [0xD800]
  rw [herror] at hpart
  cases hpart

end Gazetteer.Key
