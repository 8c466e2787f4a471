import Gazetteer.Country.Detail
import Gazetteer.Proofs.Country.Grammar
import Gazetteer.Proofs.Json.RoundTrip

/-!
# Stored values are accepted again

The values of a country were accepted once and then put into the form in which they are stored.  A
client may send them as they are, the dialling codes with commas between them.  They are accepted
again, and there is nothing left to be put into another form: the name and the continent have no
blanks at their ends, capital letters are letters and their own capitals, and a dialling code holds
neither a comma nor a blank.

* `Fields.draft`, `Fields.body`: stored values as a draft, and as a client sends them;
* `Fields.Valid.fields_draft`: the draft comes to the same values; `fields_draft_of_readFor`: what
  was accepted is put into its form once and for all;
* `Fields.Valid.readFor_body`: the values are accepted again.
-/

namespace Gazetteer.Country

open Text Validation

variable {f : Fields} {s : String}

/-- Stored values as a draft. -/
def Fields.draft (f : Fields) : Draft where
  name := f.name
  continent := f.continent
  codes := f.codes
  iso2 := f.iso2
  iso3 := f.iso3

/-- Dialling codes in one text, with commas between them. -/
def listed (codes : List String) : String :=
  String.ofList (joinWith ',' (codes.map String.toList))

/-- **Stored values as a client sends them.** -/
def Fields.body (f : Fields) : Json :=
  .object [("name", .text f.name), ("continent", .text f.continent),
    ("countryCode", .text (listed f.codes)), ("iso2", .text f.iso2), ("iso3", .text f.iso3)]

/-! ## Stored texts -/

theorem upperChar_of_isUpper {c : Char} (h : c.isUpper) : upperChar c = [c] := by
  refine of_isAlpha (P := fun c => c.isUpper → upperChar c = [c]) (fun n _ hn => ?_)
    (isAlpha_of_isUpper h) h
  have hself : (Char.ofNat n).toUpper = Char.ofNat n := by
    revert n
    decide
  rw [upperChar_of_ascii (by revert n; decide), hself]

/-- **Capital letters are their own capitals.** -/
theorem upper_of_isUpper (h : ∀ c ∈ s.toList, c.isUpper) : upper s = s := by
  have hself : s.toList.flatMap upperChar = s.toList.flatMap fun c => [c] :=
    List.flatMap_congr fun c hc => upperChar_of_isUpper (h c hc)
  rw [upper, hself, List.flatMap_singleton', String.ofList_toList]

theorem IsIsoCode.isLetters {n : Nat} (h : IsIsoCode n s) : Draft.IsLetters n s where
  length := h.length
  letters c hc := isAlpha_of_isUpper (h.capital c hc)

/-- An ISO code that is stored is stored as it is. -/
theorem IsIsoCode.upper_trim {n : Nat} (h : IsIsoCode n s) : upper (trim s) = s := by
  rw [trim_eq_self fun c hc => not_isBlank_of_isAlpha (h.isLetters.letters c hc),
    upper_of_isUpper h.capital]

theorem IsDiallingCode.not_isBlank (h : IsDiallingCode s) : ∀ c ∈ s.toList, isBlank c = false :=
  fun c hc => not_isBlank_of_isDialling (h.dialling c hc)

theorem IsDiallingCode.trim_eq (h : IsDiallingCode s) : trim s = s := trim_eq_self h.not_isBlank

theorem IsDiallingCode.comma_not_mem (h : IsDiallingCode s) : ',' ∉ s.toList :=
  fun hmem => absurd (h.dialling ',' hmem) (by decide)

/-! ## Dialling codes with commas between them -/

theorem IsDiallingCode.isListable (h : IsDiallingCode s) : IsListable s where
  ne_nil := List.ne_nil_of_length_pos h.least
  sep_not_mem := h.comma_not_mem
  first c hc := h.not_isBlank c (List.mem_of_mem_head? hc)
  last c hc := h.not_isBlank c (List.mem_of_getLast? hc)

/-- **Dialling codes are found again** in the text that lists them. -/
theorem commaParts_listed {codes : List String} (h : ∀ k ∈ codes, IsDiallingCode k) :
    commaParts (listed codes) = codes := by
  refine (listsTexts_iff fun k hk => (h k hk).isListable).mp ?_
  rw [ListsTexts, listed, String.toList_ofList]
  exact isListOf_joinWith _ _ _

/-! ## Stored values -/

/-- **Stored values are in their form already.** -/
theorem Fields.Valid.fields_draft (h : f.Valid) : f.draft.fields = f := by
  have hcodes : (f.codes.map trim).filter (· ≠ "") = f.codes :=
    Draft.filter_map_trim fun k hk => ⟨h.codes k hk, (h.codes k hk).trim_eq⟩
  unfold Draft.fields draft
  rw [h.name.trimmed, h.continent.trimmed, h.iso2.upper_trim, h.iso3.upper_trim, hcodes]

/-- **What was accepted is put into its form once and for all.** -/
theorem fields_draft_of_readFor {purpose : Purpose} {v : Json} {d : Draft}
    (h : Draft.readFor purpose v = .ok d) : d.fields.draft.fields = d.fields :=
  (Draft.valid_of_readFor h).fields_draft

theorem IsLabel.check {greatest : Nat} (h : IsLabel greatest s) :
    ({ least := 1, greatest := some greatest } : TextRule).check (Draft.trimmed (.text s)) =
      .ok s := by
  rw [Draft.trimmed, h.trimmed]
  refine TextRule.check_eq_ok_iff.mpr ⟨rfl, TextRule.fault?_eq_none_iff.mpr
    ⟨h.least, fun n hn => ?_, fun p hp => ?_⟩⟩
  · cases hn
    exact h.greatest
  · cases hp

/-- **Stored values are accepted again.** -/
theorem Fields.Valid.readFor_body (h : f.Valid) (purpose : Purpose) :
    Draft.readFor purpose f.body = .ok f.draft := by
  have hcodes : itemsAtLeast 1 Draft.codeRule.check (Draft.codeList (.text (listed f.codes))) =
      .ok f.codes :=
    Draft.codes_check_iff.mpr
      ⟨Draft.lists_text_iff.mpr (commaParts_listed h.codes).symm, h.codes_ne_nil,
        h.codes⟩
  refine Draft.readFor_eq_ok_iff.mpr ⟨_, rfl, Draft.ofFields_eq_ok_iff.mpr
    ⟨⟨_, rfl, h.name.check⟩, ⟨_, rfl, h.continent.check⟩, ⟨_, rfl, hcodes⟩, ⟨_, rfl, ?_⟩,
      ⟨_, rfl, ?_⟩⟩⟩
  · exact Draft.letters_check_iff.mpr ⟨rfl, h.iso2.isLetters⟩
  · exact Draft.letters_check_iff.mpr ⟨rfl, h.iso3.isLetters⟩

theorem Fields.plain_body (digits : Option Nat) (f : Fields) : Json.Plain digits 1 f.body := by
  refine .object (show ["name", "continent", "countryCode", "iso2", "iso3"].Nodup by decide)
    (show ∀ n ∈ ["name", "continent", "countryCode", "iso2", "iso3"], Json.IsPlainName n by
      decide) ?_
  simp only [List.forall_mem_cons]
  exact ⟨.text _, .text _, .text _, .text _, .text _, nofun⟩

/-! ## Countries as they are told -/

namespace Detail

/-- The values of a country that is told. -/
def stored (d : Detail) : Fields :=
  ⟨d.name, d.continent, d.iso2, d.iso3, d.codes.map (·.code)⟩

/-- **A country that was told, as a client sends it back.** -/
def body (d : Detail) : Json := d.stored.body

end Detail

/-- A country with three dialling codes. -/
example : (Detail.mk 1 "Dominica" "America" (some "1-809") [⟨1, "1-809", true⟩, ⟨2, "1-829", false⟩,
    ⟨3, "+1849", false⟩] "DM" "DMA" ⟨⟨2024, 1, 1⟩, 0, 0, 0, 0, none⟩
    ⟨⟨2024, 1, 1⟩, 0, 0, 0, 0, none⟩).body.field? "countryCode" =
      some (.text "1-809,1-829,+1849") := by rfl

end Gazetteer.Country
