import Gazetteer.Proofs.Json.Openings
import Gazetteer.Proofs.Settings.Reading
import Gazetteer.Proofs.Text.CommaList
import Gazetteer.Proofs.Url.Reader

/-!
# The forms of the origins

The origins may be given as a list, in one line with commas between them, or as a JSON text of the
list.  As an argument a list and a line are accepted, in the environment a JSON text is.  No text is
accepted in both places: a line does not begin like a value, and in the environment it would have to
be one.

* `commaParts_intercalate`: the parts of a line;
* `head?_of_commaParts`, `not_opens_of_line`: where a line begins;
* `readWithin_of_line`: what is accepted as a line is no JSON text;
* `OriginForms`, `originForms`: what becomes of some origins in each form.
-/

namespace Gazetteer

open Text Validation

namespace Text

/-- **The parts of a line are the texts between its commas**, without the blanks around them. -/
theorem commaParts_intercalate {ps : List String}
    (h : ∀ p ∈ ps, ',' ∉ (trim p).toList ∧ trim p ≠ "") :
    commaParts (String.intercalate "," ps) = ps.map trim := by
  have hlistable : ∀ p ∈ ps.map trim, IsListable p := by
    refine List.forall_mem_map.mpr fun p hp => ⟨by simpa using (h p hp).2, (h p hp).1, ?_, ?_⟩
    · rw [toList_trim]
      exact fun _ hc => head?_trimBy hc
    · rw [toList_trim]
      exact fun _ hc => getLast?_trimBy hc
  have hpieces : ((ps.map String.toList).map (trimBy isBlank)).filter (!·.isEmpty) =
      (ps.map trim).map String.toList := by
    rw [List.map_map, List.map_map, List.filter_eq_self.mpr]
    · exact List.map_congr_left fun p _ => (toList_trim p).symm
    · refine List.forall_mem_map.mpr fun p hp => ?_
      simpa [← toList_trim] using (h p hp).2
  refine (listsTexts_iff hlistable).mp ⟨ps.map String.toList, toList_intercalate ps, ?_⟩
  rw [← hpieces]
  exact spells_trimmed _ _

/-- The first part goes on in front. -/
theorem splitAt_append_of_not_mem {α : Type} [DecidableEq α] {sep : α} {xs : List α}
    (h : sep ∉ xs) (ys : List α) : ∃ part parts, splitAt sep ys = part :: parts ∧
      splitAt sep (xs ++ ys) = (xs ++ part) :: parts := by
  induction xs with
  | nil =>
    obtain ⟨part, parts, hparts⟩ := List.exists_cons_of_ne_nil (splitAt_ne_nil sep ys)
    exact ⟨part, parts, hparts, hparts⟩
  | cons x xs ih =>
    rw [List.mem_cons, not_or] at h
    obtain ⟨part, parts, hys, hxs⟩ := ih h.2
    obtain ⟨_, _, hp, hx⟩ := splitAt_cons_of_ne (Ne.symm h.1) (xs ++ ys)
    rw [hxs] at hp
    cases hp
    exact ⟨part, parts, hys, hx⟩

end Text

namespace Settings

/-! ## Lines -/

/-- **Where a line begins**, gaps apart: with a comma, with a blank, or with the first part. -/
theorem head?_of_commaParts {s : String} {c : Char}
    (hc : c ∈ (s.toList.dropWhile Json.isGap).head?) :
    c = ',' ∨ isBlank c ∨ ∃ p ∈ commaParts s, p.toList.head? = some c := by
  by_cases hcomma : c = ','
  · exact Or.inl hcomma
  by_cases hblank : isBlank c
  · exact Or.inr (Or.inl hblank)
  refine Or.inr (Or.inr ?_)
  obtain ⟨more, hmore⟩ : ∃ more, s.toList.dropWhile Json.isGap = c :: more := by
    cases hd : s.toList.dropWhile Json.isGap with
    | nil => rw [hd] at hc; cases hc
    | cons d ds => rw [hd] at hc; cases hc; exact ⟨ds, rfl⟩
  have hgap : ∀ d ∈ s.toList.takeWhile Json.isGap, isBlank d ∧ d ≠ ',' := by
    intro d hd
    have hg := List.mem_takeWhile_imp hd
    simp only [Json.isGap, Bool.or_eq_true, decide_eq_true_eq] at hg
    rcases hg with ((rfl | rfl) | rfl) | rfl <;> decide
  have hcut : s.toList = s.toList.takeWhile Json.isGap ++ c :: more := by
    rw [← hmore, List.takeWhile_append_dropWhile]
  generalize s.toList.takeWhile Json.isGap = gaps at hgap hcut
  obtain ⟨part, parts, hparts, hsplit⟩ := splitAt_append_of_not_mem
    (show ',' ∉ gaps from fun h => (hgap _ h).2 rfl) (c :: more)
  obtain ⟨rest, _, -, hrest⟩ := splitAt_cons_of_ne hcomma more
  rw [hparts] at hrest
  cases hrest
  obtain ⟨ds, hds⟩ : ∃ ds, trimBy isBlank (c :: rest) = c :: ds := trimBy_cons_of_neg hblank
  have htrim : trimBy isBlank (gaps ++ c :: rest) = c :: ds := by
    rw [← hds, trimBy, trimBy, List.dropWhile_append_of_pos fun d hd => (hgap d hd).1]
  refine ⟨String.ofList (c :: ds), ?_, by rw [String.toList_ofList]; rfl⟩
  rw [commaParts, partsOf, hcut, hsplit, trimmedParts, List.map_cons, htrim,
    List.filter_cons_of_pos rfl]
  exact List.mem_cons_self

theorem readOrigins_text_eq_ok {s : String} {as : List Address} :
    readOrigins (.text s) = .ok as ↔ s.toList.head? ≠ some '[' ∧
      (commaParts s).map (fun p => webAddress (.text p)) = as.map .ok := by
  unfold readOrigins
  dsimp only
  split
  · next h => simp [h, Checked.refuse]
  · next h =>
    rw [items, Checked.all_eq_ok_iff, List.map_map]
    exact (and_iff_right h).symm

/-- **No line of origins begins with a value.** -/
theorem not_opens_of_line {s : String} {as : List Address} {c : Char}
    (h : (commaParts s).map (fun p => webAddress (.text p)) = as.map .ok)
    (hc : c ∈ (s.toList.dropWhile Json.isGap).head?) : Json.opens c = false := by
  have hall : "\x7b[\"ntfNI-0123456789".toList.all
      fun d => d ≠ ',' ∧ isBlank d = false ∧ 0x20 < d.toNat ∧ d.toLower ≠ 'h' := by decide
  rw [← Bool.not_eq_true]
  intro hopens
  obtain ⟨hcomma, hblank, hlow, hletter⟩ :=
    of_decide_eq_true (List.all_eq_true.mp hall c (by simpa [Json.opens] using hopens))
  rcases head?_of_commaParts hc with hc' | hc' | ⟨p, hp, hhead⟩
  · exact hcomma hc'
  · rw [hblank] at hc'
    cases hc'
  · obtain ⟨a, ha⟩ : ∃ a, webAddress (.text p) = .ok a := by
      have hmem := List.mem_map_of_mem (f := fun p => webAddress (.text p)) hp
      rw [h] at hmem
      obtain ⟨a, -, ha⟩ := List.mem_map.mp hmem
      exact ⟨a, ha.symm⟩
    obtain ⟨d, hd, hkind⟩ := Address.head?_of_webAddress ha
    rw [hhead] at hd
    cases hd
    rcases hkind with hkind | hkind
    · omega
    · exact hletter hkind

/-- **A line of origins is accepted**, for it does not begin with a bracket. -/
theorem readOrigins_of_parts {s : String} {as : List Address}
    (h : (commaParts s).map (fun p => webAddress (.text p)) = as.map .ok) :
    readOrigins (.text s) = .ok as := by
  refine readOrigins_text_eq_ok.mpr ⟨fun hhead => ?_, h⟩
  have hfirst : '[' ∈ (s.toList.dropWhile Json.isGap).head? := by
    obtain ⟨rest, hs⟩ := List.head?_eq_some_iff.mp hhead
    rw [hs, List.dropWhile_cons_of_neg (by decide)]
    rfl
  exact absurd (not_opens_of_line h hfirst) (by decide)

/-- What begins with a bracket is no line. -/
theorem readOrigins_of_bracket {s : String} (h : s.toList.head? = some '[') :
    readOrigins (.text s) = .refuse .listExpected (.text s) := if_pos h

/-- **What is accepted as a line is no JSON text.** -/
theorem readWithin_of_line {s : String} {as : List Address} (h : readOrigins (.text s) = .ok as)
    (limits : Json.Limits) :
    ∃ offset, Json.readWithin limits s = .error ⟨.expectingValue, offset⟩ :=
  Json.readWithin_of_not_opens fun _ hc => not_opens_of_line (readOrigins_text_eq_ok.mp h).2 hc

theorem originsOfText_of_line {s : String} {as : List Address}
    (h : readOrigins (.text s) = .ok as) : originsOfText s = .error (.unreadable originsName) := by
  obtain ⟨offset, hread⟩ := readWithin_of_line h limits
  rw [originsOfText, hread]
  rfl

/-! ## The forms -/

variable {arguments : List (String × Json)} {environment : List (String × String)} {s : Settings}
  {texts : List String} {origins : List Address}

/-- **What becomes of some origins in each form**, beside other settings. -/
structure OriginForms (arguments : List (String × Json)) (environment : List (String × String))
    (s : Settings) (texts : List String) (origins : List Address) : Prop where
  /-- As an argument they may be given as a list, -/
  list : read ((originsName, .array (texts.map .text)) :: arguments) environment =
    .ok { s with origins }
  /-- or in a line with commas, with any blanks around them. -/
  line : ∀ parts : List String, parts.map trim = texts →
    read ((originsName, .text (String.intercalate "," parts)) :: arguments) environment =
      .ok { s with origins }
  /-- In the environment they may be given as any JSON text of the list, -/
  json : ∀ text, Json.readWithin limits text = .ok (.array (texts.map .text)) →
    read arguments ((originsName, text) :: environment) = .ok { s with origins }
  /-- such as the one that it is written as. -/
  written : Json.readWithin limits (Json.array (texts.map .text)).render =
    .ok (.array (texts.map .text))
  /-- There a line is no JSON text, -/
  lineOutside : ∀ parts : List String, parts.map trim = texts →
    read arguments ((originsName, String.intercalate "," parts) :: environment) =
      .error (.unreadable originsName)
  /-- and as an argument a JSON text is refused; if it begins with the bracket, as no list. -/
  jsonInside : ∀ text, Json.readWithin limits text = .ok (.array (texts.map .text)) →
    ∃ issues, read ((originsName, .text text) :: arguments) environment =
        .error (.rejected ⟨kind, issues⟩) ∧
      (text.toList.head? = some '[' →
        issues = [⟨[.field originsName], .listExpected, .text text⟩])

/-- **Origins have two forms as an argument and one in the environment.** -/
theorem originForms (hread : texts.map (fun t => webAddress (.text t)) = origins.map .ok)
    (hcommas : ∀ t ∈ texts, ',' ∉ t.toList) (hs : read arguments environment = .ok s)
    (hl : Lookup.ofArguments arguments = {}) (ha : ∀ f ∈ arguments, f.1 ≠ originsName)
    (he : ∀ e ∈ environment, e.1 ≠ originsName) :
    OriginForms arguments environment s texts origins := by
  have hlist : readOrigins (.array (texts.map .text)) = .ok origins := by
    rw [readOrigins, items, Checked.all_eq_ok_iff, List.map_map]
    exact hread
  have hline : ∀ parts : List String, parts.map trim = texts →
      readOrigins (.text (String.intercalate "," parts)) = .ok origins := by
    rintro parts rfl
    refine readOrigins_of_parts ?_
    rwa [commaParts_intercalate fun p hp => ⟨hcommas _ (List.mem_map_of_mem hp), ?_⟩]
    -- an address is not empty
    obtain ⟨a, -, ha⟩ := List.mem_map.mp (hread ▸ List.mem_map_of_mem (List.mem_map_of_mem hp))
    obtain ⟨c, hc, -⟩ := Address.head?_of_webAddress ha.symm
    intro hempty
    rw [hempty] at hc
    cases hc
  have hjson : ∀ text, Json.readWithin limits text = .ok (.array (texts.map .text)) →
      originsOfText text = .ok (some (.array (texts.map .text))) := by
    intro text ht
    rw [originsOfText, ht]
  exact {
    list := by
      rw [read_argument (v := .array (texts.map .text)) hs ha nofun, hlist]
      rfl
    line := fun parts hparts => by
      rw [read_argument (v := .text _) hs ha nofun, hline parts hparts]
      rfl
    json := fun text ht => by
      rw [read_environment hs hl ha he, hjson text ht]
      change withOrigins s (readOrigins _) = _
      rw [hlist]
      rfl
    written := by
      have hplain : Json.Plain none 1 (.array (texts.map .text)) := .array fun v hv => by
        obtain ⟨t, -, rfl⟩ := List.mem_map.mp hv
        exact .text t
      exact Json.readWithin_render hplain (by decide)
    lineOutside := fun parts hparts => by
      rw [read_environment hs hl ha he, originsOfText_of_line (hline parts hparts)]
      rfl
    jsonInside := fun text ht => by
      rw [read_argument (v := .text text) hs ha nofun]
      cases hx : readOrigins (.text text) with
      | ok _ =>
        obtain ⟨offset, herror⟩ := readWithin_of_line hx limits
        rw [ht] at herror
        cases herror
      | faulty issues =>
        refine ⟨_, rfl, fun hhead => ?_⟩
        rw [readOrigins_of_bracket hhead] at hx
        cases hx
        rfl }

/-- Two addresses of sites. -/
def sites : List Address :=
  [⟨"http", "", "a.example", none, [""], none, none⟩,
    ⟨"https", "", "b.example", some "8080", [""], none, none⟩]

/-- The two addresses in writing. -/
def siteTexts : List String := ["http://a.example", "https://b.example:8080"]

theorem eq_ok_of_toOption {ε α : Type} {x : Except ε α} {a : α} (h : x.toOption = some a) :
    x = .ok a := by
  cases x with
  | error => cases h
  | ok => exact congrArg Except.ok (Option.some.inj h)

theorem eq_ok_of_accepted {α : Type} {x : Checked α} {a : α} (h : x.toOption = some a) :
    x = .ok a := by
  cases x with
  | faulty => cases h
  | ok => exact congrArg Checked.ok (Option.some.inj h)

theorem map_webAddress_siteTexts :
    siteTexts.map (fun t => webAddress (.text t)) = sites.map .ok := by
  have hfirst : webAddress (.text "http://a.example") =
      .ok ⟨"http", "", "a.example", none, [""], none, none⟩ :=
    eq_ok_of_accepted (by decide +kernel)
  have hsecond : webAddress (.text "https://b.example:8080") =
      .ok ⟨"https", "", "b.example", some "8080", [""], none, none⟩ :=
    eq_ok_of_accepted (by decide +kernel)
  rw [siteTexts, List.map_cons, List.map_cons, hfirst, hsecond]
  rfl

theorem originForms_sites :
    read [("DEBUG", .bool true)] [("API_V1_STR", "/v2")] =
      .ok { default with isDebug := true, apiPath := Json.codePoints "/v2" } ∧
    ["http://a.example ", " https://b.example:8080"].map trim = siteTexts ∧
    OriginForms [("DEBUG", .bool true)] [("API_V1_STR", "/v2")]
      { default with isDebug := true, apiPath := Json.codePoints "/v2" } siteTexts sites := by
  have hs : read [("DEBUG", .bool true)] [("API_V1_STR", "/v2")] =
      .ok { default with isDebug := true, apiPath := Json.codePoints "/v2" } :=
    eq_ok_of_toOption (by decide +kernel)
  exact ⟨hs, by decide +kernel, originForms map_webAddress_siteTexts (by decide +kernel) hs rfl
    (by decide) (by decide)⟩

/-- **A line is refused in the environment, and a JSON text as an argument.** -/
theorem line_unreadable :
    let line := "http://a.example,https://b.example:8080"
    let text := "[\"http://a.example\",\"https://b.example:8080\"]"
    read [(originsName, .text line)] [] = .ok { default with origins := sites } ∧
    read [] [(originsName, text)] = .ok { default with origins := sites } ∧
    read [] [(originsName, line)] = .error (.unreadable originsName) ∧
    read [(originsName, .text text)] [] =
      .error (.rejected ⟨kind, [⟨[.field originsName], .listExpected, .text text⟩]⟩) := by
  intro line text
  have hs : read [] [] = .ok default := eq_ok_of_toOption (by decide +kernel)
  have hline : readOrigins (.text line) = .ok sites :=
    readOrigins_of_parts (by
      rw [show commaParts line = siteTexts by decide +kernel, map_webAddress_siteTexts])
  refine ⟨eq_ok_of_toOption (by decide +kernel), eq_ok_of_toOption (by decide +kernel), ?_, ?_⟩
  · rw [read_environment hs rfl nofun nofun, originsOfText_of_line hline]
    rfl
  · have hbracket : text.toList.head? = some '[' := by decide +kernel
    rw [read_argument (v := .text text) hs nofun nofun, readOrigins_of_bracket hbracket]
    rfl

end Settings

end Gazetteer
