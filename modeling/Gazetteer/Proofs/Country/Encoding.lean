import Gazetteer.Country.Page
import Gazetteer.Proofs.Country.Draft
import Gazetteer.Proofs.Json.Limits
import Gazetteer.Proofs.Json.Points
import Gazetteer.Proofs.Number.Ceiling
import Gazetteer.Proofs.Time.Reading

/-!
# Answers are read back

A country and a page are written under one name for each field and read under several, of which that
one goes first.  Numbers, texts and truth values are themselves when they are read, and a moment is
read back from its text.  So what is written as a value is the same when it is read, and the text of
the value is read as the value.

There are countries without a text, though, and texts that are not read back.  A country that is
accepted may hold half a surrogate pair, which no text in Unicode does.  A number may have more
digits than are converted when it is read.  And an offset of a moment is written in hours and
minutes, whatever its seconds are.

* `ComesBack`: something is the same when it is written, read and written again;
* `Detail.ofFields_eq_ok_iff`, `Page.ofFields_eq_ok_iff`: what the fields of a value have to be;
* `Detail.Writable`, `Page.Writable`: texts of characters, numbers that are converted, and dates of
  the calendar with whole minutes in their offset;
* `Detail.comesBack_iff`, `Page.comesBack_iff`: these and no others come back;
* `invertibleEncoding`: all of it for countries and for pages.
-/

namespace Gazetteer.Country

open Json (IsText IsShort Converts Plain)
open Number Validation

/-- **Something comes back** if it is written as a value, the value as a text, the text is read
within so many digits, and what is read is the same and is written as the value that was read. -/
def ComesBack {α : Type} (digits : Option Nat) (write : α → Option Json)
    (read : Json → Checked α) (x : α) : Prop :=
  ∃ text v y, (write x).bind Json.render? = some text ∧
    Json.readWithin { digits := digits } text = .ok v ∧ read v = .ok y ∧ y = x ∧ write y = some v

section
variable {α : Type} {digits : Option Nat} {write : α → Option Json} {name : String}
  {names : List String} {rule : Json → Checked α} {fields : List (String × Json)}
  {v : Json} {x : α} {height : Nat} {points : List Nat}

/-- What is written as a plain value comes back if the value is read back. -/
theorem comesBack_of_plain (hv : write x = some v) (hplain : Plain digits height v)
    (hread : rule v = .ok x) : ComesBack digits write rule x := by
  refine ⟨v.render, v, x, ?_, Json.readWithin_render hplain nofun, hread, rfl, hv⟩
  rw [hv]
  exact if_pos hplain.isWhole

/-- **What comes back** is written as a value that has a text, that has converted numbers only, and
that is read back. -/
theorem ComesBack.value (h : ComesBack digits write rule x) :
    ∃ v, write x = some v ∧ v.isWhole ∧ Converts digits v ∧ rule v = .ok x := by
  obtain ⟨text, v, y, htext, hv, hread, rfl, hwrite⟩ := h
  rw [hwrite, Option.bind_some, Json.render?_eq_some_iff] at htext
  exact ⟨v, hwrite, htext.1, Json.converts_of_readWithin hv, hread⟩

/-! ## Fields -/

theorem firstField?_of_fieldOf? (h : Json.fieldOf? name fields = some v) :
    Json.firstField? (name :: names) fields = some (name, v) := by
  simp [Json.firstField?, h]

/-- A field that is given under its first name is read. -/
theorem required_of_fieldOf? (h : Json.fieldOf? name fields = some v) :
    required (name :: names) rule fields = .ok x ↔ rule v = .ok x := by
  rw [required, firstField?_of_fieldOf? h]
  exact Checked.under_eq_ok_iff

theorem withDefault_of_fieldOf? {default : α} (h : Json.fieldOf? name fields = some v) :
    withDefault (name :: names) default rule fields = .ok x ↔ rule v = .ok x := by
  rw [withDefault, firstField?_of_fieldOf? h]
  exact Checked.under_eq_ok_iff

/-- **Items are read back as a list** if they are read back one by one. -/
theorem items_map_iff {f : α → Json} {xs : List α} :
    items rule (.array (xs.map f)) = .ok xs ↔ ∀ x ∈ xs, rule (f x) = .ok x := by
  rw [items, Checked.all_eq_ok_iff, List.map_map]
  exact List.map_inj_left

theorem of_mem_items {xs : List α} (h : items rule v = .ok xs) (hx : x ∈ xs) :
    ∃ w, rule w = .ok x := by
  unfold items at h
  split at h
  · have hmem : Checked.ok x ∈ xs.map Checked.ok := List.mem_map_of_mem hx
    rw [← Checked.all_eq_ok_iff.mp h] at hmem
    obtain ⟨w, -, hw⟩ := List.mem_map.mp hmem
    exact ⟨w, hw⟩
  · exact absurd h Checked.refuse_ne_ok

/-! ## Texts -/

theorem textPoints_of_isText (h : IsText points) : textPoints (.ofPoints points) = .ok points := by
  rw [textPoints, (Json.isText_iff.mp h).2]

/-- A text that can be written and is read back is one of characters. -/
theorem isText_of_textPoints (hwhole : (Json.ofPoints points).isWhole)
    (h : textPoints (.ofPoints points) = .ok points) : IsText points := by
  refine Json.isText_iff.mpr ⟨hwhole, ?_⟩
  unfold textPoints at h
  split at h
  · next ps hps =>
    cases h
    exact hps
  · exact absurd h Checked.refuse_ne_ok

/-- A text that may be absent is read as one that may not. -/
theorem optional_textPoints_iff :
    Validation.optional textPoints (.ofPoints points) = .ok (some points) ↔
      textPoints (.ofPoints points) = .ok points := by
  have hoptional : Validation.optional textPoints (.ofPoints points) =
      some <$> textPoints (.ofPoints points) := by
    unfold Json.ofPoints
    split <;> rfl
  rw [hoptional, Checked.map_eq_ok_iff]
  constructor
  · rintro ⟨_, h, heq⟩
    cases heq
    exact h
  · exact fun h => ⟨points, h, rfl⟩

theorem plain_of_isText (h : IsText points) : Plain digits height (.ofPoints points) := by
  rw [h.ofPoints_eq]
  exact .text _

theorem moment_text {m : Moment} (h : m.Valid) : moment (.text m.text) = .ok m := by
  rw [moment, Moment.read_text h]
  rfl

end

/-! ## Dialling codes -/

namespace CodeDetail

variable {digits : Option Nat} {c : CodeDetail (List Nat)}

theorem read_json_iff :
    read (c.jsonBy .ofPoints) = .ok c ↔ textPoints (.ofPoints c.code) = .ok c.code := by
  change ofFields _ = .ok c ↔ _
  simp only [ofFields, Checked.seq_eq_ok_iff, Checked.map_eq_ok_iff]
  constructor
  · rintro ⟨_, primary, ⟨_, code, ⟨id, -, rfl⟩, hcode, rfl⟩, -, rfl⟩
    exact (required_of_fieldOf? rfl).mp hcode
  · intro hcode
    exact ⟨_, c.isPrimary, ⟨_, c.code, ⟨c.id, rfl, rfl⟩, (required_of_fieldOf? rfl).mpr hcode, rfl⟩,
      rfl, rfl⟩

theorem plain_json (hid : IsShort digits c.id) (hcode : IsText c.code) :
    Plain digits 1 (c.jsonBy .ofPoints) := by
  refine .object (show ["id", "code", "isPrimary"].Nodup by decide)
    (show ∀ n ∈ ["id", "code", "isPrimary"], Json.IsPlainName n by decide) ?_
  simp only [List.forall_mem_cons]
  exact ⟨.int hid, plain_of_isText hcode, .bool _, nofun⟩

/-- A code that is written as a whole value of converted numbers and is read back. -/
theorem of_read_json (hwhole : (c.jsonBy .ofPoints).isWhole)
    (hconverts : Converts digits (c.jsonBy .ofPoints)) (hread : read (c.jsonBy .ofPoints) = .ok c) :
    IsShort digits c.id ∧ IsText c.code := by
  rw [jsonBy] at hwhole hconverts
  rw [Json.isWhole, Json.isWholeFields_iff] at hwhole
  rw [Json.converts_object_iff] at hconverts
  simp only [List.forall_mem_cons] at hwhole hconverts
  exact ⟨Json.converts_int_iff.mp hconverts.1,
    isText_of_textPoints hwhole.2.1 (read_json_iff.mp hread)⟩

end CodeDetail

/-! ## Countries -/

namespace Detail

variable {digits : Option Nat} {d : Detail (List Nat)}

/-- **What the fields of a country have to be.** -/
theorem ofFields_eq_ok_iff {fields : List (String × Json)} : ofFields fields = .ok d ↔
    (required ["id"] integer fields = .ok d.id ∧
      required ["name"] textPoints fields = .ok d.name ∧
      required ["continent"] textPoints fields = .ok d.continent ∧
      withDefault primaryCodeNames none (Validation.optional textPoints) fields =
        .ok d.primaryCode ∧
      withDefault codesNames [] (items CodeDetail.read) fields = .ok d.codes ∧
      required ["iso2"] textPoints fields = .ok d.iso2 ∧
      required ["iso3"] textPoints fields = .ok d.iso3) ∧
    required ["createdDate", "created_date"] moment fields = .ok d.created ∧
    required ["modifiedDate", "modified_date"] moment fields = .ok d.modified := by
  simp only [ofFields, Checked.seq_eq_ok_iff, Checked.map_eq_ok_iff]
  constructor
  · rintro ⟨_, _, ⟨_, _, ⟨_, _, ⟨_, _, ⟨_, _, ⟨_, _, ⟨_, _, ⟨_, _, ⟨_, hid, rfl⟩, hname, rfl⟩,
      hcontinent, rfl⟩, hprimary, rfl⟩, hcodes, rfl⟩, hiso2, rfl⟩, hiso3, rfl⟩, hcreated, rfl⟩,
      hmodified, rfl⟩
    exact ⟨⟨hid, hname, hcontinent, hprimary, hcodes, hiso2, hiso3⟩, hcreated, hmodified⟩
  · rintro ⟨⟨hid, hname, hcontinent, hprimary, hcodes, hiso2, hiso3⟩, hcreated, hmodified⟩
    exact ⟨_, _, ⟨_, _, ⟨_, _, ⟨_, _, ⟨_, _, ⟨_, _, ⟨_, _, ⟨_, _, ⟨_, hid, rfl⟩, hname, rfl⟩,
      hcontinent, rfl⟩, hprimary, rfl⟩, hcodes, rfl⟩, hiso2, rfl⟩, hiso3, rfl⟩, hcreated, rfl⟩,
      hmodified, rfl⟩

/-- **The dates of a country that is accepted** are of the calendar, and their offset has whole
minutes. -/
theorem dates_of_read {v : Json} (h : read v = .ok d) : d.created.Valid ∧ d.modified.Valid := by
  obtain ⟨fields, -, hfields⟩ := record_eq_ok_iff.mp h
  obtain ⟨-, hcreated, hmodified⟩ := ofFields_eq_ok_iff.mp hfields
  obtain ⟨_, _, -, hcreated⟩ := required_eq_ok_iff.mp hcreated
  obtain ⟨_, _, -, hmodified⟩ := required_eq_ok_iff.mp hmodified
  exact ⟨Moment.valid_of_moment hcreated, Moment.valid_of_moment hmodified⟩

/-- The numbers of a country and of its codes. -/
def ids (d : Detail (List Nat)) : List Int := d.id :: d.codes.map (·.id)

/-- The texts of a country and of its codes. -/
def texts (d : Detail (List Nat)) : List (List Nat) :=
  d.name :: d.continent :: d.iso2 :: d.iso3 :: (d.primaryCode.toList ++ d.codes.map (·.code))

/-- **A country that can be written and read back.** -/
structure Writable (digits : Option Nat) (d : Detail (List Nat)) : Prop where
  ids : ∀ n ∈ d.ids, IsShort digits n
  texts : ∀ points ∈ d.texts, IsText points
  created : d.created.Valid
  modified : d.modified.Valid

theorem ids_and_texts_iff : ((∀ n ∈ d.ids, IsShort digits n) ∧ ∀ points ∈ d.texts, IsText points) ↔
    IsShort digits d.id ∧ IsText d.name ∧ IsText d.continent ∧ IsText d.iso2 ∧ IsText d.iso3 ∧
      (∀ points ∈ d.primaryCode, IsText points) ∧
      ∀ c ∈ d.codes, IsShort digits c.id ∧ IsText c.code := by
  simp only [Detail.ids, Detail.texts, List.forall_mem_cons, List.forall_mem_append,
    List.forall_mem_map, Option.mem_toList, forall_and]
  tauto

/-- **A country is read back from its value.** -/
theorem Writable.read_json (h : d.Writable digits) : read (d.jsonBy .ofPoints) = .ok d := by
  obtain ⟨-, hname, hcontinent, hiso2, hiso3, hprimary, hcodes⟩ :=
    ids_and_texts_iff.mp ⟨h.ids, h.texts⟩
  have hprimary : Validation.optional textPoints ((d.primaryCode.map Json.ofPoints).getD .null) =
      .ok d.primaryCode := by
    cases hcode : d.primaryCode with
    | none => rfl
    | some points =>
      exact optional_textPoints_iff.mpr (textPoints_of_isText (hprimary points hcode))
  refine ofFields_eq_ok_iff.mpr ⟨⟨rfl, ?_, ?_, ?_, ?_, ?_, ?_⟩, ?_, ?_⟩
  · exact (required_of_fieldOf? rfl).mpr (textPoints_of_isText hname)
  · exact (required_of_fieldOf? rfl).mpr (textPoints_of_isText hcontinent)
  · exact (withDefault_of_fieldOf? rfl).mpr hprimary
  · exact (withDefault_of_fieldOf? rfl).mpr
      (items_map_iff.mpr fun c hc => CodeDetail.read_json_iff.mpr
        (textPoints_of_isText (hcodes c hc).2))
  · exact (required_of_fieldOf? rfl).mpr (textPoints_of_isText hiso2)
  · exact (required_of_fieldOf? rfl).mpr (textPoints_of_isText hiso3)
  · exact (required_of_fieldOf? rfl).mpr (moment_text h.created)
  · exact (required_of_fieldOf? rfl).mpr (moment_text h.modified)

/-- **The value of a country is plain.** -/
theorem Writable.plain_json (h : d.Writable digits) : Plain digits 3 (d.jsonBy .ofPoints) := by
  obtain ⟨hid, hname, hcontinent, hiso2, hiso3, hprimary, hcodes⟩ :=
    ids_and_texts_iff.mp ⟨h.ids, h.texts⟩
  have hcode : Plain digits 2 ((d.primaryCode.map Json.ofPoints).getD .null) := by
    cases hcode : d.primaryCode with
    | none => exact .null
    | some points => exact plain_of_isText (hprimary points hcode)
  let names := ["id", "name", "continent", "countryCode", "countryCodes", "iso2", "iso3",
    "createdDate", "modifiedDate"]
  refine .object (show names.Nodup by decide)
    (show ∀ n ∈ names, Json.IsPlainName n by decide) ?_
  simp only [jsonFields, List.forall_mem_cons]
  refine ⟨.int hid, plain_of_isText hname, plain_of_isText hcontinent, hcode, .array ?_,
    plain_of_isText hiso2, plain_of_isText hiso3, .text _, .text _, nofun⟩
  intro v hv
  obtain ⟨c, hc, rfl⟩ := List.mem_map.mp hv
  exact CodeDetail.plain_json (hcodes c hc).1 (hcodes c hc).2

/-- **A country that is written as a whole value of converted numbers and is read back.** -/
theorem writable_of_read_json (hwhole : (d.jsonBy .ofPoints).isWhole)
    (hconverts : Converts digits (d.jsonBy .ofPoints)) (hread : read (d.jsonBy .ofPoints) = .ok d) :
    d.Writable digits := by
  obtain ⟨hcreated, hmodified⟩ := dates_of_read hread
  obtain ⟨⟨-, hname, hcontinent, hprimary, hcodes, hiso2, hiso3⟩, -, -⟩ :=
    ofFields_eq_ok_iff.mp (show ofFields (d.jsonFields .ofPoints) = .ok d from hread)
  rw [jsonBy] at hwhole hconverts
  rw [Json.isWhole, Json.isWholeFields_iff] at hwhole
  rw [Json.converts_object_iff] at hconverts
  simp only [jsonFields, List.forall_mem_cons] at hwhole hconverts
  obtain ⟨-, hnameWhole, hcontinentWhole, hprimaryWhole, hcodesWhole, hiso2Whole, hiso3Whole, -⟩ :=
    hwhole
  obtain ⟨hid, -, -, -, hcodesConvert, -⟩ := hconverts
  rw [Json.isWhole, Json.isWholeItems_iff] at hcodesWhole
  rw [Json.converts_array_iff] at hcodesConvert
  have hcodes := items_map_iff.mp ((withDefault_of_fieldOf? rfl).mp hcodes)
  have hprimary := (withDefault_of_fieldOf? rfl).mp hprimary
  obtain ⟨hids, htexts⟩ : (∀ n ∈ d.ids, IsShort digits n) ∧ ∀ points ∈ d.texts, IsText points := by
    refine ids_and_texts_iff.mpr ⟨Json.converts_int_iff.mp hid,
      isText_of_textPoints hnameWhole ((required_of_fieldOf? rfl).mp hname),
      isText_of_textPoints hcontinentWhole ((required_of_fieldOf? rfl).mp hcontinent),
      isText_of_textPoints hiso2Whole ((required_of_fieldOf? rfl).mp hiso2),
      isText_of_textPoints hiso3Whole ((required_of_fieldOf? rfl).mp hiso3), fun points hp => ?_,
      fun c hc => ?_⟩
    · have hcode : d.primaryCode = some points := hp
      rw [hcode] at hprimary hprimaryWhole
      exact isText_of_textPoints hprimaryWhole (optional_textPoints_iff.mp hprimary)
    · have hmem : c.jsonBy .ofPoints ∈ d.codes.map (CodeDetail.jsonBy .ofPoints) :=
        List.mem_map_of_mem hc
      exact CodeDetail.of_read_json (hcodesWhole _ hmem) (hcodesConvert _ hmem) (hcodes c hc)
  exact ⟨hids, htexts, hcreated, hmodified⟩

/-- **The countries that come back** are those that can be written. -/
theorem comesBack_iff :
    ComesBack digits (some ∘ jsonBy .ofPoints) read d ↔ d.Writable digits := by
  constructor
  · intro h
    obtain ⟨v, hv, hwhole, hconverts, hread⟩ := h.value
    cases hv
    exact writable_of_read_json hwhole hconverts hread
  · exact fun h => comesBack_of_plain rfl h.plain_json h.read_json

end Detail

/-! ## Pages -/

theorem count_natCast {least n : Nat} (h : least ≤ n) : Page.count least (.int n) = .ok n := by
  refine Checked.map_eq_ok_iff.mpr ⟨n, ?_, Int.toNat_natCast n⟩
  exact Checked.andThen_eq_ok_iff.mpr ⟨n, rfl, if_neg (by omega)⟩

theorem le_of_count {least n : Nat} {v : Json} (h : Page.count least v = .ok n) : least ≤ n := by
  obtain ⟨m, hm, rfl⟩ := Checked.map_eq_ok_iff.mp h
  obtain ⟨k, -, hk⟩ := Checked.andThen_eq_ok_iff.mp hm
  split at hk
  · exact absurd hk Checked.refuse_ne_ok
  · cases hk
    omega

theorem le_of_withDefault_count {least default n : Nat} {names : List String}
    {fields : List (String × Json)} (hdefault : least ≤ default)
    (h : withDefault names default (Page.count least) fields = .ok n) : least ≤ n := by
  unfold withDefault at h
  split at h
  · exact le_of_count (Checked.under_eq_ok_iff.mp h)
  · cases h
    exact hdefault

namespace Page

variable {digits : Option Nat} {p : Page (List Nat)} {v : Json}

/-- **What the fields of a page have to be.** -/
theorem ofFields_eq_ok_iff {fields : List (String × Json)} : ofFields fields = .ok p ↔
    required ["items"] (Validation.items Detail.read) fields = .ok p.items ∧
      required ["totalCount", "total_count"] (count 0) fields = .ok p.totalCount ∧
      withDefault ["pageNumber", "page_number"] 1 (count 1) fields = .ok p.pageNumber ∧
      withDefault ["pageSize", "page_size"] 50 (count 1) fields = .ok p.pageSize := by
  simp only [ofFields, Checked.seq_eq_ok_iff, Checked.map_eq_ok_iff]
  constructor
  · rintro ⟨_, _, ⟨_, _, ⟨_, _, ⟨_, hitems, rfl⟩, htotal, rfl⟩, hnumber, rfl⟩, hsize, rfl⟩
    exact ⟨hitems, htotal, hnumber, hsize⟩
  · rintro ⟨hitems, htotal, hnumber, hsize⟩
    exact ⟨_, _, ⟨_, _, ⟨_, _, ⟨_, hitems, rfl⟩, htotal, rfl⟩, hnumber, rfl⟩, hsize, rfl⟩

/-- **A page that can be shown**: pages are counted from one and have room for something, and the
dates of the countries are of the calendar. -/
structure Valid (p : Page (List Nat)) : Prop where
  number : 1 ≤ p.pageNumber
  size : 1 ≤ p.pageSize
  dates : ∀ d ∈ p.items, d.created.Valid ∧ d.modified.Valid

/-- **A page that is accepted can be shown.** -/
theorem valid_of_read (h : read v = .ok p) : p.Valid := by
  obtain ⟨fields, -, hfields⟩ := record_eq_ok_iff.mp h
  obtain ⟨hitems, -, hnumber, hsize⟩ := ofFields_eq_ok_iff.mp hfields
  obtain ⟨_, w, -, hitems⟩ := required_eq_ok_iff.mp hitems
  refine ⟨le_of_withDefault_count le_rfl hnumber, le_of_withDefault_count (by decide) hsize,
    fun d hd => ?_⟩
  obtain ⟨u, hu⟩ := of_mem_items hitems hd
  exact Detail.dates_of_read hu

/-- The numbers of a page, that of all pages among them. -/
def counts (p : Page (List Nat)) : List Nat :=
  p.totalCount :: p.pageNumber :: p.pageSize :: p.totalPages?.toList

/-- **A page that can be written and read back.** -/
structure Writable (digits : Option Nat) (p : Page (List Nat)) : Prop where
  number : 1 ≤ p.pageNumber
  size : 1 ≤ p.pageSize
  counts : ∀ n ∈ p.counts, IsShort digits n
  items : ∀ d ∈ p.items, d.Writable digits

/-- The value of a page with so many pages. -/
theorem jsonBy?_of_totalPages? {pages : Nat} (h : p.totalPages? = some pages) :
    p.jsonBy? .ofPoints = some (.object
      [("items", .array (p.items.map (Detail.jsonBy .ofPoints))),
        ("totalCount", .int p.totalCount), ("pageNumber", .int p.pageNumber),
        ("pageSize", .int p.pageSize), ("totalPages", .int pages),
        ("hasPreviousPage", .bool p.hasPrevious), ("hasNextPage", .bool (p.hasNext pages))]) := by
  rw [jsonBy?, h, Option.map_some]

/-- **A page is read back from its value**; what follows from its numbers is not read. -/
theorem Writable.read_json (h : p.Writable digits) (hv : p.jsonBy? .ofPoints = some v) :
    read v = .ok p := by
  obtain ⟨pages, -, rfl⟩ := Option.map_eq_some_iff.mp hv
  refine ofFields_eq_ok_iff.mpr ⟨?_, ?_, ?_, ?_⟩
  · exact (required_of_fieldOf? rfl).mpr (items_map_iff.mpr fun d hd => (h.items d hd).read_json)
  · exact (required_of_fieldOf? rfl).mpr (count_natCast (Nat.zero_le p.totalCount))
  · exact (withDefault_of_fieldOf? rfl).mpr (count_natCast h.number)
  · exact (withDefault_of_fieldOf? rfl).mpr (count_natCast h.size)

theorem Writable.plain_json (h : p.Writable digits) (hv : p.jsonBy? .ofPoints = some v) :
    Plain digits 5 v := by
  obtain ⟨pages, hpages, rfl⟩ := Option.map_eq_some_iff.mp hv
  have hcounts := h.counts
  rw [Page.counts, hpages] at hcounts
  simp only [Option.toList_some, List.forall_mem_cons] at hcounts
  obtain ⟨htotal, hnumber, hsize, hpages, -⟩ := hcounts
  let names := ["items", "totalCount", "pageNumber", "pageSize", "totalPages",
    "hasPreviousPage", "hasNextPage"]
  refine .object (show names.Nodup by decide)
    (show ∀ n ∈ names, Json.IsPlainName n by decide) ?_
  simp only [List.forall_mem_cons]
  refine ⟨.array ?_, .int htotal, .int hnumber, .int hsize, .int hpages, .bool _, .bool _, nofun⟩
  intro v hv
  obtain ⟨d, hd, rfl⟩ := List.mem_map.mp hv
  exact (h.items d hd).plain_json

/-- **A page that is written as a whole value of converted numbers and is read back.** -/
theorem writable_of_read_json (hv : p.jsonBy? .ofPoints = some v) (hwhole : v.isWhole)
    (hconverts : Converts digits v) (hread : read v = .ok p) : p.Writable digits := by
  obtain ⟨hnumber, hsize, -⟩ := valid_of_read hread
  obtain ⟨pages, hpages, rfl⟩ := Option.map_eq_some_iff.mp hv
  obtain ⟨hitems, -⟩ := ofFields_eq_ok_iff.mp hread
  rw [Json.isWhole, Json.isWholeFields_iff] at hwhole
  rw [Json.converts_object_iff] at hconverts
  simp only [List.forall_mem_cons] at hwhole hconverts
  obtain ⟨hitemsWhole, -⟩ := hwhole
  obtain ⟨hitemsConvert, htotal, hnumberShort, hsizeShort, hpagesShort, -⟩ := hconverts
  rw [Json.isWhole, Json.isWholeItems_iff] at hitemsWhole
  rw [Json.converts_array_iff] at hitemsConvert
  have hitems := items_map_iff.mp ((required_of_fieldOf? rfl).mp hitems)
  refine ⟨hnumber, hsize, ?_, fun d hd => ?_⟩
  · rw [counts, hpages]
    simp only [Option.toList_some, List.forall_mem_cons]
    exact ⟨Json.converts_int_iff.mp htotal, Json.converts_int_iff.mp hnumberShort,
      Json.converts_int_iff.mp hsizeShort, Json.converts_int_iff.mp hpagesShort,
      List.forall_mem_nil _⟩
  · have hmem : d.jsonBy .ofPoints ∈ p.items.map (Detail.jsonBy .ofPoints) :=
      List.mem_map_of_mem hd
    exact Detail.writable_of_read_json (hitemsWhole _ hmem) (hitemsConvert _ hmem) (hitems d hd)

/-- **The pages that come back** are those that can be written and whose number of pages is
defined. -/
theorem comesBack_iff : ComesBack digits (jsonBy? .ofPoints) read p ↔
    p.totalPages?.isSome ∧ p.Writable digits := by
  constructor
  · intro h
    obtain ⟨v, hv, hwhole, hconverts, hread⟩ := h.value
    refine ⟨?_, writable_of_read_json hv hwhole hconverts hread⟩
    obtain ⟨pages, hpages, -⟩ := Option.map_eq_some_iff.mp hv
    rw [hpages, Option.isSome_some]
  · rintro ⟨hpages, h⟩
    obtain ⟨pages, hpages⟩ := Option.isSome_iff_exists.mp hpages
    have hv := jsonBy?_of_totalPages? hpages
    exact comesBack_of_plain hv (h.plain_json hv) (h.read_json hv)

/-- **The number of pages has few digits**, whatever the page counts. -/
theorem length_totalPages? {pages : Nat} (hs : 1 ≤ p.pageSize) (h : p.totalPages? = some pages) :
    (natDigits pages).length ≤ 309 := by
  have hle : pages ≤ 2 ^ 1024 := Binary64.le_of_ceil?_ofQuotient hs h
  refine (Nat.length_toDigits_le_iff (by decide) (by decide)).mpr (hle.trans_lt ?_)
  decide +kernel

end Page

/-! ## Both -/

/-- **Answers are read back**, where whole numbers of so many digits are converted. -/
structure InvertibleEncoding (digits : Option Nat) : Prop where
  /-- A country is written, read and written again with the same result if and only if its texts
  are of characters, its numbers are converted, and its dates are of the calendar and have whole
  minutes in their offset. -/
  detail : ∀ d : Detail (List Nat),
    ComesBack digits (some ∘ Detail.jsonBy .ofPoints) Detail.read d ↔ d.Writable digits
  /-- The last one is so of whatever is accepted as a country. -/
  dates : ∀ v d, Detail.read v = .ok d → d.created.Valid ∧ d.modified.Valid
  /-- A page whose number of pages is defined is written, read and written again with the same
  result, the numbers that follow from others among it, if and only if that is so of its countries
  and its numbers are converted. -/
  page : ∀ p : Page (List Nat), p.totalPages?.isSome →
    (ComesBack digits (Page.jsonBy? .ofPoints) Page.read p ↔ p.Writable digits)
  /-- Whatever is accepted as a page has a first number and room for something. -/
  valid : ∀ v p, Page.read v = .ok p → p.Valid
  /-- The number of pages is converted if numbers of 309 digits are. -/
  pages : ∀ (p : Page (List Nat)) (n : Nat), 1 ≤ p.pageSize → p.totalPages? = some n →
    (natDigits n).length ≤ 309
  /-- The countries and pages of a store are among these. -/
  stored : (∀ d : Detail, (d.map Json.codePoints).jsonBy .ofPoints = d.json) ∧
    ∀ p : Page, (p.map Json.codePoints).jsonBy? .ofPoints = p.json?

theorem CodeDetail.json_map (c : CodeDetail) :
    (c.map Json.codePoints).jsonBy .ofPoints = c.jsonBy .text := by
  rw [jsonBy, CodeDetail.map, Json.ofPoints_toNat]
  rfl

/-- **A country of a store is written as one by its code points.** -/
theorem Detail.json_map (d : Detail) : (d.map Json.codePoints).jsonBy .ofPoints = d.json := by
  have hcodes : (d.codes.map (CodeDetail.map Json.codePoints)).map (CodeDetail.jsonBy .ofPoints) =
      d.codes.map (CodeDetail.jsonBy .text) := by
    rw [List.map_map]
    exact List.map_congr_left fun c _ => c.json_map
  have hprimary : ((d.primaryCode.map Json.codePoints).map Json.ofPoints) =
      d.primaryCode.map .text := by
    rw [Option.map_map]
    exact congrArg (d.primaryCode.map ·) (funext Json.ofPoints_toNat)
  simp only [json, jsonBy, jsonFields, Detail.map, Json.ofPoints_toNat, hcodes, hprimary]

theorem Page.json_map (p : Page) : (p.map Json.codePoints).jsonBy? .ofPoints = p.json? := by
  have hitems : (p.items.map (Detail.map Json.codePoints)).map (Detail.jsonBy .ofPoints) =
      p.items.map (Detail.jsonBy .text) := by
    rw [List.map_map]
    exact List.map_congr_left fun d _ => d.json_map
  simp only [json?, jsonBy?, Page.map, hitems]
  rfl

/-- **Countries and pages are read back from their texts**, all but the torn, the long and the
unevenly zoned ones. -/
theorem invertibleEncoding (digits : Option Nat) : InvertibleEncoding digits where
  detail _ := Detail.comesBack_iff
  dates _ _ := Detail.dates_of_read
  page _ hpages := Page.comesBack_iff.trans (and_iff_right hpages)
  valid _ _ := Page.valid_of_read
  pages _ _ := Page.length_totalPages?
  stored := ⟨Detail.json_map, Page.json_map⟩

/-- The least number with too many digits. -/
theorem not_isShort_pow {greatest : Nat} (h : 0 < greatest) :
    ¬IsShort (some greatest) (10 ^ greatest) := by
  intro hshort
  have hlength := hshort greatest rfl
  rw [Int.natAbs_pow, natDigits, Nat.length_toDigits_le_iff (by decide) h] at hlength
  exact lt_irrefl _ hlength

/-- A country by its number, its name and the offset of its dates. -/
def niue (id : Int) (name : List Nat) (offset : Option Int) : Detail (List Nat) where
  id := id
  name := name
  continent := Json.codePoints "Oceania"
  primaryCode := none
  codes := []
  iso2 := Json.codePoints "NU"
  iso3 := Json.codePoints "NIU"
  created := ⟨⟨2024, 2, 29⟩, 23, 59, 59, 10, offset⟩
  modified := ⟨⟨2024, 3, 1⟩, 0, 0, 0, 0, none⟩

/-- **Three countries that do not come back**: one with half a surrogate pair for a name and one
with a number of 4301 digits, both of which are accepted, and one with half a minute in an
offset. -/
theorem not_invertible :
    (∃ v, Detail.read v = .ok (niue 7 [0xD800] none)) ∧
    ¬ComesBack none (some ∘ Detail.jsonBy .ofPoints) Detail.read (niue 7 [0xD800] none) ∧
    (∃ v, Detail.read v = .ok (niue (10 ^ greatestLength) (Json.codePoints "Niue") none)) ∧
    ¬ComesBack (some greatestLength) (some ∘ Detail.jsonBy .ofPoints) Detail.read
      (niue (10 ^ greatestLength) (Json.codePoints "Niue") none) ∧
    ¬ComesBack none (some ∘ Detail.jsonBy .ofPoints) Detail.read
      (niue 7 (Json.codePoints "Niue") (some 30000000)) := by
  have hlong : (niue (10 ^ greatestLength) (Json.codePoints "Niue") none).Writable none := by
    refine ⟨fun _ _ => nofun, ?_, ?_, ?_⟩
    · intro points hpoints
      simp only [Detail.texts, niue, List.mem_cons, Option.toList_none, List.map_nil,
        List.append_nil, List.not_mem_nil, or_false] at hpoints
      rcases hpoints with rfl | rfl | rfl | rfl <;> exact Json.isText_codePoints _
    · exact ⟨⟨by decide, by decide, by decide⟩, by decide, by decide, by decide, by decide,
        by decide, nofun⟩
    · exact ⟨⟨by decide, by decide, by decide⟩, by decide, by decide, by decide, by decide,
        by decide, nofun⟩
  refine ⟨⟨(niue 7 [0xD800] none).jsonBy .ofPoints, rfl⟩, fun h => ?_, ⟨_, hlong.read_json⟩,
    fun h => ?_, fun h => ?_⟩
  · have hname := (Detail.comesBack_iff.mp h).texts [0xD800] List.mem_cons_self
    exact absurd (hname 0xD800 List.mem_cons_self) (by decide)
  · exact not_isShort_pow (by decide) ((Detail.comesBack_iff.mp h).ids _ List.mem_cons_self)
  · obtain ⟨minutes, hminutes, -⟩ := (Detail.comesBack_iff.mp h).created.offset 30000000 rfl
    rw [Moment.minuteLength] at hminutes
    omega

/-- A page whose country has a date with a fraction and an offset, and no primary code. -/
example : Page.read (.object [("items", .array
      [(niue 7 (Json.codePoints "Niue") (some (-39600000000))).jsonBy .ofPoints]),
    ("totalCount", .int 1), ("hasNextPage", .bool true)]) =
      .ok ⟨[niue 7 (Json.codePoints "Niue") (some (-39600000000))], 1, 1, 50⟩ := by
  rfl

end Gazetteer.Country
