import Gazetteer.Http.Site
import Gazetteer.Proofs.Number.IntegerText

/-!
# Addresses of countries

As a rule the path below which the countries are holds no braces, so that it stands for itself.
Then all countries are created at that path, and each of them is found one step below it, by its
number.

* `read_of_plain`, `read_below`: the templates of such a site; `mapM_route`: its routes;
* `match?_append`, `match?_parameter`: the paths that fit them;
* `dispatch_create`, `dispatch_update`, `dispatch_delete`, `dispatch_country`: what becomes of a
  request;
* `idParameter_intText_iff`: the number in a path that was written with it;
* `head?_of_idParameter`: what is read as a number is none of the words.
-/

namespace Gazetteer.Http

open Number Text Validation

variable {cs ds base : List Char}

/-! ## Templates -/

namespace Template

/-- A text without braces stands for itself, whatever follows it. -/
theorem piecesFrom_append (h : '\x7b' ∉ cs) (ds : List Char) :
    piecesFrom 0 (cs ++ ds) = (cs.map TemplatePiece.letter ++ ·) <$> piecesFrom 0 ds := by
  induction cs with
  | nil => cases hp : piecesFrom 0 ds <;> simp [hp]
  | cons c cs ih =>
    rw [List.mem_cons, not_or] at h
    simp only [List.cons_append, piecesFrom, ne_eq, not_true_eq_false, if_false, ih h.2,
      if_neg (Ne.symm h.1)]
    cases piecesFrom 0 ds <;> rfl

theorem names_append (t u : Template) : names (t ++ u) = names t ++ names u :=
  List.filterMap_append

@[simp] theorem names_letters (cs : List Char) : names (cs.map .letter) = [] := by
  simp [names]

theorem read_of_pieces {t : Template} (ht : piecesFrom 0 cs = .ok t) (hn : t.repeated = []) :
    Template.read cs = .ok t := by
  unfold Template.read
  rw [ht]
  dsimp only
  rw [hn]

/-- **The template of a text without braces.** -/
theorem read_of_plain (h : '\x7b' ∉ cs) : Template.read cs = .ok (cs.map .letter) := by
  refine read_of_pieces ?_ (by simp [repeated])
  have hp := piecesFrom_append h []
  rw [List.append_nil] at hp
  rw [hp, piecesFrom]
  simp

/-- A number one step below a path. -/
def below (base : List Char) : Template :=
  base.map .letter ++ [.letter '/', .parameter Route.idName .segment]

/-- **The template of the countries of a site.** -/
theorem read_below (h : '\x7b' ∉ base) :
    Template.read (base ++ "/\x7b".toList ++ Route.idName.toList ++ "\x7d".toList) =
      .ok (below base) := by
  have hname : piecesFrom 0 ("/\x7b".toList ++ Route.idName.toList ++ "\x7d".toList) =
      .ok [.letter '/', .parameter Route.idName .segment] := by decide +kernel
  refine read_of_pieces ?_ ?_
  · rw [List.append_assoc, List.append_assoc, piecesFrom_append h, ← List.append_assoc, hname]
    rfl
  · rw [repeated, below, names_append, names_letters, List.nil_append]
    decide +kernel

/-! ## Names in braces -/

theorem bracedFrom_append (h : '\x7b' ∉ cs) (ds : List Char) :
    bracedFrom 0 (cs ++ ds) = bracedFrom 0 ds := by
  induction cs with
  | nil => rfl
  | cons c cs ih =>
    rw [List.mem_cons, not_or] at h
    rw [List.cons_append, bracedFrom, if_neg (by simp)]
    dsimp only
    rw [if_neg fun hc => h.1 hc.1.symm, ih h.2]

theorem plainText_append (t u : Template) : plainText (t ++ u) = plainText t ++ plainText u :=
  List.flatMap_append

theorem plainText_letters (cs : List Char) : plainText (cs.map .letter) = cs := by
  simp [plainText, List.flatMap_map]

theorem braced_letters (h : '\x7b' ∉ cs) : braced (cs.map .letter) = [] := by
  have hb := bracedFrom_append h []
  rw [List.append_nil] at hb
  rw [braced, plainText_letters, hb, bracedFrom]

theorem braced_below (h : '\x7b' ∉ base) : (below base).braced = [Route.idName] := by
  rw [braced, below, plainText_append, plainText_letters, bracedFrom_append h]
  decide +kernel

/-! ## Paths that fit -/

theorem match?_append (t : Template) (cs ds : List Char) :
    match? (cs.map .letter ++ t) (cs ++ ds) = match? t ds := by
  induction cs with
  | nil => rfl
  | cons c cs ih => simpa [match?] using ih

theorem match?_letter_of_ne {c : Char} {t : Template} (h : ds.head? ≠ some c) :
    match? (.letter c :: t) ds = none := by
  cases ds with
  | nil => rfl
  | cons d ds =>
    rw [match?, if_neg]
    rintro rfl
    exact h rfl

/-- **A name at the end takes all that is left**, if there is something left and no slash in it. -/
theorem match?_parameter {name : String} (hne : ds ≠ []) (h : '/' ∉ ds) :
    match? [.parameter name .segment] ds = some [(name, ds)] := by
  have hall : ds.takeWhile (· ≠ '/') = ds := by
    rw [List.takeWhile_eq_self_iff]
    intro c hc
    simp only [ne_eq, decide_not, Bool.not_eq_true', decide_eq_false_iff_not]
    rintro rfl
    exact h hc
  -- the first number of characters to be tried is that of all
  obtain ⟨ns, hns⟩ : ∃ ns, ParameterKind.lengths .segment ds = ds.length :: ns := by
    have hpos := List.length_pos_iff.mpr hne
    obtain ⟨k, hk⟩ : ∃ k, ds.length + 1 - 1 = k + 1 := ⟨ds.length - 1, by omega⟩
    rw [ParameterKind.lengths, hall, ParameterKind.down, hk, List.range_succ_eq_map]
    exact ⟨_, by simp; rfl⟩
  rw [match?, hns]
  simp [match?]

theorem match?_below (base : List Char) (hne : ds ≠ []) (h : '/' ∉ ds) :
    match? (below base) (base ++ '/' :: ds) = some [(Route.idName, ds)] := by
  rw [below, match?_append, match?, if_pos rfl, match?_parameter hne h]

end Template

/-! ## Routes -/

/-- The routes of a site whose path stands for itself. -/
def plainRoutes (base : List Char) : List Route :=
  [⟨"GET", (base ++ "/search".toList).map .letter, .search⟩,
    ⟨"GET", (base ++ "/continents".toList).map .letter, .continents⟩,
    ⟨"GET", Template.below base, .country⟩,
    ⟨"POST", base.map .letter, .create⟩,
    ⟨"PUT", Template.below base, .update⟩,
    ⟨"DELETE", Template.below base, .delete⟩,
    ⟨"GET", [.letter '/'], .welcome⟩]

theorem route_eq_ok {method : String} {endpoint : Endpoint} {t : Template}
    (ht : Template.read cs = .ok t) (hf : Site.routeFault? endpoint t = none) :
    Site.route (method, cs, endpoint) = .ok ⟨method, t, endpoint⟩ := by
  unfold Site.route
  dsimp only
  rw [ht]
  dsimp only
  rw [hf]

theorem route_of_plain (method : String) (endpoint : Endpoint) (h : '\x7b' ∉ cs) :
    Site.route (method, cs, endpoint) = .ok ⟨method, cs.map .letter, endpoint⟩ := by
  refine route_eq_ok (Template.read_of_plain h) ?_
  unfold Site.routeFault?
  rw [Template.braced_letters h]
  cases endpoint <;> rfl

theorem route_below (method : String) (endpoint : Endpoint) (he : endpoint ≠ .search)
    (h : '\x7b' ∉ base) :
    Site.route (method, base ++ "/\x7b".toList ++ Route.idName.toList ++ "\x7d".toList, endpoint) =
      .ok ⟨method, Template.below base, endpoint⟩ := by
  refine route_eq_ok (Template.read_below h) ?_
  unfold Site.routeFault?
  rw [Template.braced_below h]
  cases endpoint with
  | search => exact absurd rfl he
  | create | update => decide +kernel
  | _ => rfl

/-- **The routes of a site whose path holds no braces.** -/
theorem mapM_route (h : '\x7b' ∉ base) :
    (Route.all base).mapM Site.route = .ok (plainRoutes base) := by
  have hsearch : '\x7b' ∉ base ++ "/search".toList := by
    rw [List.mem_append, not_or]
    exact ⟨h, by decide +kernel⟩
  have hcontinents : '\x7b' ∉ base ++ "/continents".toList := by
    rw [List.mem_append, not_or]
    exact ⟨h, by decide +kernel⟩
  have hwelcome : '\x7b' ∉ ['/'] := by decide
  have hcountry := route_below "GET" .country nofun h
  have hupdate := route_below "PUT" .update nofun h
  have hdelete := route_below "DELETE" .delete nofun h
  simp only [Route.all, List.mapM_cons, List.mapM_nil, route_of_plain _ _ hsearch,
    route_of_plain _ _ hcontinents, route_of_plain _ _ h, hcountry, hupdate, hdelete,
    route_of_plain _ _ hwelcome]
  rfl

/-! ## Requests -/

theorem dispatch_of_full {rs : List Route} {method : String} {path : List Char} {d : Dispatch}
    (h : (rs.findSome? fun r =>
      if r.method = method then (r.segment? path).map (Dispatch.to r.endpoint) else none) =
        some d) :
    dispatch rs method path = d := by
  unfold dispatch
  dsimp only
  rw [h]

theorem segment?_letters (method : String) (endpoint : Endpoint) (cs : List Char) :
    Route.segment? ⟨method, cs.map .letter, endpoint⟩ cs = some [] := by
  rw [Route.segment?, Template.match?_letters]
  rfl

theorem segment?_below (method : String) (endpoint : Endpoint) (hne : ds ≠ []) (h : '/' ∉ ds) :
    Route.segment? ⟨method, Template.below base, endpoint⟩ (base ++ '/' :: ds) = some ds := by
  rw [Route.segment?, Template.match?_below base hne h]
  simp

/-- **A country is created at the path of the countries.** -/
theorem dispatch_create (base : List Char) :
    dispatch (plainRoutes base) "POST" base = .to .create [] := by
  refine dispatch_of_full ?_
  simp [plainRoutes, segment?_letters]

/-- **A country is replaced one step below it.** -/
theorem dispatch_update (hne : ds ≠ []) (h : '/' ∉ ds) :
    dispatch (plainRoutes base) "PUT" (base ++ '/' :: ds) = .to .update ds := by
  refine dispatch_of_full ?_
  simp [plainRoutes, segment?_below _ _ hne h]

theorem dispatch_delete (hne : ds ≠ []) (h : '/' ∉ ds) :
    dispatch (plainRoutes base) "DELETE" (base ++ '/' :: ds) = .to .delete ds := by
  refine dispatch_of_full ?_
  simp [plainRoutes, segment?_below _ _ hne h]

/-- A word one step below the path is not found by another word. -/
theorem segment?_word {method : String} {endpoint : Endpoint} {c : Char} {word : List Char}
    (h : ds.head? ≠ some c) :
    Route.segment? ⟨method, (base ++ '/' :: c :: word).map .letter, endpoint⟩ (base ++ '/' :: ds) =
      none := by
  rw [Route.segment?, List.map_append, Template.match?_append, List.map_cons, List.map_cons,
    Template.match?, if_pos rfl, Template.match?_letter_of_ne h]
  rfl

/-- **A country is found one step below it**, by what is neither of the two words that stand there
for something else. -/
theorem dispatch_country (hne : ds ≠ []) (h : '/' ∉ ds) (hs : ds.head? ≠ some 's')
    (hc : ds.head? ≠ some 'c') :
    dispatch (plainRoutes base) "GET" (base ++ '/' :: ds) = .to .country ds := by
  have hsearch : "/search".toList = '/' :: 's' :: "earch".toList := by decide +kernel
  have hcontinents : "/continents".toList = '/' :: 'c' :: "ontinents".toList := by decide +kernel
  refine dispatch_of_full ?_
  simp only [plainRoutes, List.findSome?_cons, if_true, hsearch, hcontinents, segment?_word hs,
    segment?_word hc, segment?_below _ _ hne h]
  rfl

/-! ## Numbers -/

/-- A character of a number is a digit or a minus sign. -/
theorem mem_intText {n : Int} {c : Char} (h : c ∈ (intText n).toList) : c.isDigit ∨ c = '-' := by
  cases n with
  | ofNat n =>
    rw [intText, natText, String.toList_ofList] at h
    exact Or.inl (isDigit_of_mem_natDigits h)
  | negSucc n =>
    rw [intText, String.toList_ofList] at h
    rcases List.mem_cons.mp h with rfl | h
    · exact Or.inr rfl
    · exact Or.inl (isDigit_of_mem_natDigits h)

theorem not_mem_intText {n : Int} {c : Char} (hd : c.isDigit = false) (hm : c ≠ '-') :
    c ∉ (intText n).toList := by
  intro h
  rcases mem_intText h with h | h
  · rw [hd] at h
    cases h
  · exact hm h

theorem intText_ne_nil (n : Int) : (intText n).toList ≠ [] := by
  cases n with
  | ofNat n =>
    rw [intText, natText, String.toList_ofList]
    exact natDigits_ne_nil n
  | negSucc n =>
    rw [intText, String.toList_ofList]
    exact List.cons_ne_nil _ _

theorem head?_intText_ne (n : Int) {c : Char} (hd : c.isDigit = false) (hm : c ≠ '-') :
    (intText n).toList.head? ≠ some c :=
  fun hc => not_mem_intText hd hm (List.mem_of_mem_head? hc)

/-- **A country is found by its number.** -/
theorem dispatch_intText (base : List Char) (n : Int) :
    dispatch (plainRoutes base) "GET" (base ++ '/' :: (intText n).toList) =
      .to .country (intText n).toList :=
  dispatch_country (intText_ne_nil n) (not_mem_intText (by decide) (by decide))
    (head?_intText_ne n (by decide) (by decide)) (head?_intText_ne n (by decide) (by decide))

theorem idParameter_eq_ok_iff {id : Int} :
    Site.idParameter ds = .ok id ↔ readInteger (String.ofList ds) = .ok id := by
  unfold Site.idParameter integer
  rw [Checked.under_eq_ok_iff, Checked.under_eq_ok_iff]
  dsimp only
  split
  · next n h => rw [h]; simp
  · next h => rw [h]; exact iff_of_false Checked.refuse_ne_ok nofun
  · next h => rw [h]; exact iff_of_false Checked.refuse_ne_ok nofun

/-- **The number in a path that was written with it**, unless it has too many digits. -/
theorem idParameter_intText_iff {n id : Int} : Site.idParameter (intText n).toList = .ok id ↔
    (natDigits n.natAbs).length ≤ greatestLength ∧ n = id := by
  rw [idParameter_eq_ok_iff, String.ofList_toList, readInteger_intText]
  split
  · next h => exact iff_of_false nofun fun hle => absurd hle.1 (not_le_of_gt h)
  · next h => rw [Except.ok.injEq, and_iff_right (not_lt.mp h)]

theorem idParameter_intText {n : Int} (h : Store.fits n) :
    Site.idParameter (intText n).toList = .ok n := by
  simp only [Store.fits, Bool.and_eq_true, decide_eq_true_eq] at h
  exact idParameter_intText_iff.mpr ⟨length_natDigits_le (by omega), rfl⟩

/-- What is read as a number stands for nothing else in a path. -/
theorem head?_of_idParameter {id : Int} (h : Site.idParameter ds = .ok id) :
    ds ≠ [] ∧ ds.head? ≠ some 's' ∧ ds.head? ≠ some 'c' := by
  rw [idParameter_eq_ok_iff] at h
  cases ds with
  | nil =>
    have hempty : readInteger (String.ofList []) = .error .unreadable := by decide +kernel
    rw [hempty] at h
    cases h
  | cons d ds =>
    refine ⟨List.cons_ne_nil d ds, ?_, ?_⟩
    · rintro ⟨⟩
      exact absurd (isSpace_or_of_readInteger h) (by decide)
    · rintro ⟨⟩
      exact absurd (isSpace_or_of_readInteger h) (by decide)

end Gazetteer.Http
