import Gazetteer.Proofs.Json.Points
import Gazetteer.Proofs.Settings.Reading
import Gazetteer.Proofs.Text.Separation

/-!
# The address of the database

An address that is given is used as it is.  Any other is put together from user, password, server
and name, with a colon, an `@` and a slash between them.  As none of the parts is escaped, such an
address tells its parts only if they hold none of these characters where they would be taken for
the ones between the parts.

* `Database.IsPlain`, `Database.IsSeparable`: parts that are told by the address;
* `Database.IsPlain.sameParts`, `Database.IsSeparable.sameParts`: they are told;
* `Database.isSeparable_of_told`: and no others among all parts;
* `explicitUri?`, `givenUri_of_read`: the address that is given;
* `read_uri_argument`, `read_uri_environment`: none is refused;
* `read_arguments`: any parts can be set;
* `AddressLaws`, `addressLaws`: what the address of the database tells.
-/

namespace Gazetteer.Settings

open Json Text Validation

namespace Database

variable {d e : Database}

/-- The same user, password, server and name. -/
structure SameParts (d e : Database) : Prop where
  user : d.user = e.user
  password : d.password = e.password
  server : d.server = e.server
  name : d.name = e.name

/-- **Parts as they usually are**, with any password. -/
structure IsPlain (d : Database) : Prop where
  user : ':'.toNat ∉ d.user
  server : '@'.toNat ∉ d.server ∧ '/'.toNat ∉ d.server
  name : '@'.toNat ∉ d.name

/-- **Parts without what stands beside them in the address.** -/
structure IsSeparable (d : Database) : Prop where
  user : ':'.toNat ∉ d.user
  password : ':'.toNat ∉ d.password ∧ '@'.toNat ∉ d.password
  server : '@'.toNat ∉ d.server ∧ '/'.toNat ∉ d.server
  name : '/'.toNat ∉ d.name

/-- What stands after the scheme of an address that is put together. -/
def address (d : Database) : List Nat :=
  d.user ++ ':'.toNat :: (d.password ++ '@'.toNat :: (d.server ++ '/'.toNat :: d.name))

theorem assembledUri_eq (d : Database) :
    d.assembledUri = codePoints "postgresql://" ++ d.address := by
  unfold assembledUri address
  generalize codePoints "postgresql://" = scheme
  simp only [List.append_assoc, List.cons_append]

theorem assembledUri_eq_iff : d.assembledUri = e.assembledUri ↔ d.address = e.address := by
  rw [assembledUri_eq, assembledUri_eq, List.append_right_inj]

/-- **The usual parts are told by the address.** -/
theorem IsPlain.sameParts (hd : d.IsPlain) (he : e.IsPlain) (h : d.address = e.address) :
    d.SameParts e := by
  -- the first colon, the last `@` and then the first slash stand between the parts
  have hlast : ∀ {d : Database}, d.IsPlain → '@'.toNat ∉ d.server ++ '/'.toNat :: d.name := by
    intro d hd
    simp only [List.mem_append, List.mem_cons, not_or]
    exact ⟨hd.server.1, by decide, hd.name⟩
  rcases append_cons_cases hd.user h with ⟨-, huser, h⟩ | ⟨more, hmore, -⟩
  · obtain ⟨hpassword, h⟩ := append_cons_inj_of_last (hlast hd) (hlast he) h
    rcases append_cons_cases hd.server.2 h with ⟨-, hserver, hname⟩ | ⟨more, hmore, -⟩
    · exact ⟨huser, hpassword, hserver, hname⟩
    · exact absurd (hmore ▸ by simp) he.server.2
  · exact absurd (hmore ▸ by simp) he.user

/-- Behind a server and a name that are separable no `@` is followed by a slash. -/
theorem IsSeparable.not_at (hd : d.IsSeparable) {xs ys zs : List Nat} :
    d.server ++ '/'.toNat :: d.name ≠ xs ++ '@'.toNat :: (ys ++ '/'.toNat :: zs) := by
  intro h
  rcases append_cons_cases hd.server.1 h with ⟨heq, -⟩ | ⟨more, -, hname⟩
  · exact absurd heq (by decide)
  · exact absurd (hname ▸ by simp) hd.name

/-- **Separable parts are told by the address**, whatever the others are. -/
theorem IsSeparable.sameParts (hd : d.IsSeparable) (h : d.address = e.address) :
    d.SameParts e := by
  rcases append_cons_cases hd.user h with ⟨-, huser, h⟩ | ⟨more, -, h⟩
  · rcases append_cons_cases hd.password.2 h with ⟨-, hpassword, h⟩ | ⟨more, -, h⟩
    · rcases append_cons_cases hd.server.2 h with ⟨-, hserver, hname⟩ | ⟨more, -, hname⟩
      · exact ⟨huser, hpassword, hserver, hname⟩
      · exact absurd (hname ▸ by simp) hd.name
    · exact absurd h hd.not_at
  · -- the colon of the other address comes after the `@` of this one, before another `@`
    rcases append_cons_cases hd.password.1 h with ⟨heq, -⟩ | ⟨more, -, h⟩
    · exact absurd heq (by decide)
    · have h : d.server ++ '/'.toNat :: d.name = (more ++ ':'.toNat :: e.password) ++
          '@'.toNat :: (e.server ++ '/'.toNat :: e.name) := by
        rw [h, List.append_assoc, List.cons_append]
      exact absurd h hd.not_at

/-- **Parts that are told by the address are separable**: otherwise a character of a part can be
taken for one between the parts. -/
theorem isSeparable_of_told (h : ∀ e : Database, e.address = d.address → d.SameParts e) :
    d.IsSeparable := by
  constructor
  case user =>
    intro hmem
    obtain ⟨xs, ys, hxs⟩ := List.append_of_mem hmem
    have hsame := h { d with user := xs, password := ys ++ ':'.toNat :: d.password }
      (by simp [address, hxs])
    simpa [hxs] using hsame.user
  case password =>
    refine ⟨fun hmem => ?_, fun hmem => ?_⟩ <;> obtain ⟨xs, ys, hxs⟩ := List.append_of_mem hmem
    · have hsame := h { d with user := d.user ++ ':'.toNat :: xs, password := ys }
        (by simp [address, hxs])
      simpa using hsame.user
    · have hsame := h { d with password := xs, server := ys ++ '@'.toNat :: d.server }
        (by simp [address, hxs])
      simpa [hxs] using hsame.password
  case server =>
    refine ⟨fun hmem => ?_, fun hmem => ?_⟩ <;> obtain ⟨xs, ys, hxs⟩ := List.append_of_mem hmem
    · have hsame := h { d with password := d.password ++ '@'.toNat :: xs, server := ys }
        (by simp [address, hxs])
      simpa using hsame.password
    · have hsame := h { d with server := xs, name := ys ++ '/'.toNat :: d.name }
        (by simp [address, hxs])
      simpa [hxs] using hsame.server
  case name =>
    intro hmem
    obtain ⟨xs, ys, hxs⟩ := List.append_of_mem hmem
    have hsame := h { d with server := d.server ++ '/'.toNat :: xs, name := ys }
      (by simp [address, hxs])
    simpa using hsame.server

end Database

/-! ## Addresses that are given -/

section
variable {arguments given fields before : List (String × Json)}
  {environment : List (String × String)} {name text : String} {v : Json} {s : Settings}

/-- **The address that is given**: as the last argument of its name, or else in the environment. -/
def explicitUri? (arguments : List (String × Json)) (environment : List (String × String)) :
    Option (List Nat) :=
  match arguments.reverse.lookup uriName with
  | some v => v.points?
  | none =>
    (((Lookup.ofArguments arguments).text? environment uriName).filter
      ((Lookup.ofArguments arguments).absent ≠ some ·)).map codePoints

/-- Of the values of a field the last one counts. -/
theorem fieldOf?_update : (fieldOf? name (update before fields)).bind points? =
    match fields.reverse.lookup name with
      | some v => v.points?
      | none => (fieldOf? name before).bind points? := by
  induction fields generalizing before with
  | nil => rw [update]; rfl
  | cons f fields ih =>
    obtain ⟨n, v⟩ := f
    have hmerged : (((fieldOf? n before).map (merged · v)).getD v).points? = v.points? := by
      cases fieldOf? n before with
      | none => rfl
      | some old => cases old <;> cases v <;> rfl
    rw [update_cons, ih, List.reverse_cons, List.lookup_append]
    cases fields.reverse.lookup name with
    | some w => rfl
    | none =>
      rw [fieldOf?_put]
      by_cases hn : name = n
      · subst hn
        rw [if_pos rfl, Option.bind_some, hmerged, List.lookup_cons_self]
        rfl
      · rw [if_neg hn, List.lookup_cons, beq_false_of_ne hn]
        rfl

/-- A text of the environment stands for itself, or for nothing. -/
theorem valueOfText_of_ne (hname : name ≠ originsName) (l : Lookup) (text : String) :
    valueOfText l name text = .ok (some (if l.absent = some text then .null else .text text)) := by
  unfold valueOfText
  by_cases habsent : l.absent = some text
  · rw [if_pos habsent, if_pos habsent]
  · rw [if_neg habsent, if_neg hname, if_neg habsent]

/-- **A setting that the environment gives** is the text of its name. -/
theorem fieldOf?_fromEnvironment {l : Lookup} {ns : List String} (hname : name ≠ originsName)
    (h : fromEnvironment l environment ns = .ok given) :
    fieldOf? name given = if name ∈ ns then (l.text? environment name).map fun text =>
      if l.absent = some text then .null else .text text else none := by
  induction ns generalizing given with
  | nil => cases h; rfl
  | cons n ns ih =>
    cases htext : l.text? environment n with
    | none =>
      rw [fromEnvironment_of_none htext] at h
      rw [ih h]
      by_cases hn : name = n
      · subst hn
        rw [htext, Option.map_none, ite_self, ite_self]
      · simp only [List.mem_cons, hn, false_or]
    | some text =>
      rw [fromEnvironment_of_some htext] at h
      by_cases hn : name = n
      · subst hn
        rw [valueOfText_of_ne hname] at h
        obtain ⟨rest, -, rfl⟩ := map_eq_ok_iff.mp h
        rw [fieldOf?_cons, if_pos rfl, if_pos List.mem_cons_self, htext]
        rfl
      · obtain ⟨v, -, h⟩ := bind_eq_ok_iff.mp h
        simp only [List.mem_cons, hn, false_or]
        cases v with
        | none => exact ih h
        | some v =>
          obtain ⟨rest, hrest, rfl⟩ := map_eq_ok_iff.mp h
          rw [fieldOf?_cons, if_neg hn, ih hrest]

theorem setting_uri (fields : List (String × Json)) :
    setting uriName none (.ok <| points? ·) fields =
      .ok ((fieldOf? uriName fields).bind points?) := by
  unfold setting withDefault firstField?
  rw [List.findSome?_cons]
  cases fieldOf? uriName fields <;> rfl

/-- **The parts of the database are read one by one.** -/
theorem Database.ofFields_eq_ok_iff {d : Database} : Database.ofFields fields = .ok d ↔
    setting "POSTGRESQL_SERVER" defaultDatabase.server textPoints fields = .ok d.server ∧
    setting "POSTGRESQL_DATABASE" defaultDatabase.name textPoints fields = .ok d.name ∧
    setting "POSTGRESQL_USER" defaultDatabase.user textPoints fields = .ok d.user ∧
    setting "POSTGRESQL_PASSWORD" defaultDatabase.password textPoints fields = .ok d.password ∧
    setting "DATABASE_POOL_SIZE" defaultDatabase.poolSize integer fields = .ok d.poolSize ∧
    setting "DATABASE_MAX_OVERFLOW" defaultDatabase.maxOverflow integer fields =
      .ok d.maxOverflow ∧
    setting "CREATE_TABLES_ON_STARTUP" defaultDatabase.createsTables flag fields =
      .ok d.createsTables ∧
    (fieldOf? uriName fields).bind points? = d.givenUri := by
  constructor
  · intro h
    simp only [Database.ofFields, setting_uri, Checked.seq_eq_ok_iff, Checked.map_eq_ok_iff] at h
    obtain ⟨_, _, ⟨_, _, ⟨_, _, ⟨_, _, ⟨_, _, ⟨_, _, ⟨_, _, ⟨_, hserver, rfl⟩, hname, rfl⟩, huser,
      rfl⟩, hpassword, rfl⟩, hpool, rfl⟩, hoverflow, rfl⟩, hcreates, rfl⟩, huri, rfl⟩ := h
    exact ⟨hserver, hname, huser, hpassword, hpool, hoverflow, hcreates, Checked.ok.inj huri⟩
  · rintro ⟨hserver, hname, huser, hpassword, hpool, hoverflow, hcreates, huri⟩
    rw [Database.ofFields, hserver, hname, huser, hpassword, hpool, hoverflow, hcreates,
      setting_uri, huri]
    rfl

/-- **The address that is given is kept**, and no other. -/
theorem givenUri_of_read (h : read arguments environment = .ok s) :
    s.database.givenUri = explicitUri? arguments environment := by
  unfold read at h
  obtain ⟨given, hgiven, h⟩ := bind_eq_ok_iff.mp h
  obtain ⟨-, -, hdatabase, -⟩ := ofFields_eq_ok_iff.mp (ofFields_of_toExcept h)
  obtain ⟨-, -, -, -, -, -, -, huri⟩ := Database.ofFields_eq_ok_iff.mp hdatabase
  rw [← huri, fieldOf?_update, fieldOf?_fromEnvironment (by decide) hgiven, if_pos (by decide),
    explicitUri?]
  cases arguments.reverse.lookup uriName with
  | some v => rfl
  | none =>
    cases (Lookup.ofArguments arguments).text? environment uriName with
    | none => rfl
    | some text =>
      by_cases habsent : (Lookup.ofArguments arguments).absent = some text
      · simp [habsent, Option.filter, points?]
      · simp [habsent, Option.filter, points?]

/-- The settings with an address that is given. -/
def withUri (s : Settings) (u : List Nat) : Settings :=
  { s with database := { s.database with givenUri := some u } }

/-- **An address that is given beside the other settings** changes nothing about them. -/
theorem ofFields_of_adds_uri {before after : List (String × Json)} {u : List Nat}
    (h : Adds uriName v before after) (hv : v.points? = some u) (hs : ofFields before = .ok s) :
    ofFields after = .ok (withUri s u) := by
  obtain ⟨hname, hpath, hdatabase, hretention, horigins, hlogging, hdebug, hknown⟩ :=
    ofFields_eq_ok_iff.mp hs
  obtain ⟨hserver, hdatabaseName, huser, hpassword, hpool, hoverflow, hcreates, -⟩ :=
    Database.ofFields_eq_ok_iff.mp hdatabase
  obtain ⟨hretention', hlogging'⟩ := groups_of_adds h (.inr rfl)
  have huri : (fieldOf? uriName after).bind points? = some u := by
    rw [h.given, Option.bind_some, hv]
  have hdatabase' : Database.ofFields after = .ok (withUri s u).database := by
    rw [Database.ofFields_eq_ok_iff]
    simp (disch := decide) only [setting_of_adds h]
    exact ⟨hserver, hdatabaseName, huser, hpassword, hpool, hoverflow, hcreates, huri⟩
  rw [ofFields_eq_ok_iff, hretention', hlogging']
  simp (disch := decide) only [setting_of_adds h]
  exact ⟨hname, hpath, hdatabase', hretention, horigins, hlogging, hdebug,
    knownOnly_of_adds h (by decide) hknown⟩

theorem read_uri_argument {u : List Nat} (hs : read arguments environment = .ok s)
    (ha : ∀ f ∈ arguments, f.1 ≠ uriName) (hv : v.points? = some u) :
    read ((uriName, v) :: arguments) environment = .ok (withUri s u) := by
  have hflat : ∀ fields, v ≠ .object fields := by
    rintro fields rfl
    cases hv
  obtain ⟨before, after, hadds, hbefore, hread⟩ := exists_adds_argument hs (by decide) ha hflat
  rw [hread, ofFields_of_adds_uri hadds hv hbefore]
  rfl

theorem read_uri_environment (hs : read arguments environment = .ok s)
    (hl : Lookup.ofArguments arguments = {}) (ha : ∀ f ∈ arguments, f.1 ≠ uriName)
    (he : ∀ e ∈ environment, e.1 ≠ uriName) (text : String) :
    read arguments ((uriName, text) :: environment) = .ok (withUri s (codePoints text)) := by
  obtain ⟨before, after, hadds, hbefore, hread⟩ :=
    exists_adds_environment hs hl (by decide) ha he text
  have hafter : ofFields (after (.text text)) = .ok (withUri s (codePoints text)) :=
    ofFields_of_adds_uri (hadds _) rfl hbefore
  rw [hread, valueOfText_of_ne (by decide), if_neg nofun]
  simp only [Except.bind, hafter]
  rfl

end

/-! ## Addresses that are put together -/

/-- The parts of a database as arguments. -/
def Database.arguments (d : Database) : List (String × Json) :=
  [("POSTGRESQL_USER", .ofPoints d.user), ("POSTGRESQL_PASSWORD", .ofPoints d.password),
    ("POSTGRESQL_SERVER", .ofPoints d.server), ("POSTGRESQL_DATABASE", .ofPoints d.name)]

/-- The settings with the parts of a database, and no others given. -/
def ofParts (d : Database) : Settings :=
  { default with database := { defaultDatabase with
      server := d.server, name := d.name, user := d.user, password := d.password } }

theorem textPoints_ofPoints {points : List Nat} (h : ∀ p ∈ points, p < 0x110000) :
    textPoints (.ofPoints points) = .ok points := by
  by_cases hhalf : points.any isHalf
  · have hv : ofPoints points = .torn points := if_pos hhalf
    rw [hv]
    rfl
  · have hv : ofPoints points = .text (textOf points) := if_neg hhalf
    rw [hv, textPoints, points?, (isText_of_lt (by simpa using hhalf) h).codePoints_textOf]

theorem fromEnvironment_nil (l : Lookup) (ns : List String) : fromEnvironment l [] ns = .ok [] := by
  induction ns with
  | nil => rfl
  | cons n ns ih => rw [fromEnvironment_of_none rfl, ih]

/-- **Any parts can be set.** -/
theorem read_arguments {d : Database} (h : ∀ p ∈ d.address, p < 0x110000) :
    read d.arguments [] = .ok (ofParts d) := by
  simp only [Database.address, List.mem_append, List.mem_cons] at h
  have huser := textPoints_ofPoints fun p hp => h p (.inl hp)
  have hpassword := textPoints_ofPoints fun p hp => h p (.inr (.inr (.inl hp)))
  have hserver := textPoints_ofPoints fun p hp => h p (.inr (.inr (.inr (.inr (.inl hp)))))
  have hname := textPoints_ofPoints fun p hp => h p (.inr (.inr (.inr (.inr (.inr (.inr hp))))))
  have hof : ∀ {name : String} {v : Json} {points : List Nat}, textPoints v = .ok points →
      (textPoints v).under (.field name) = .ok points := fun h => Checked.under_eq_ok_iff.mpr h
  have hparts : Database.ofFields d.arguments = .ok (ofParts d).database :=
    Database.ofFields_eq_ok_iff.mpr
      ⟨hof hserver, hof hname, hof huser, hof hpassword, rfl, rfl, rfl, rfl⟩
  have hfields : ofFields d.arguments = .ok (ofParts d) :=
    ofFields_eq_ok_iff.mpr ⟨rfl, rfl, hparts, rfl, rfl, rfl, rfl, rfl⟩
  have hupdate : update [] d.arguments = d.arguments := rfl
  rw [read, fromEnvironment_nil, ok_bind, hupdate, hfields]
  rfl

/-- **What the address of the database tells.** -/
structure AddressLaws (arguments : List (String × Json)) (environment : List (String × String))
    (s : Settings) : Prop where
  /-- An address that is given is used as it is, and any other is put together. -/
  uri_eq : s.database.uri = (explicitUri? arguments environment).getD s.database.assembledUri
  /-- No address is refused as an argument, -/
  asArgument : (∀ f ∈ arguments, f.1 ≠ uriName) → ∀ v u, v.points? = some u →
    read ((uriName, v) :: arguments) environment = .ok (withUri s u)
  /-- nor in the environment. -/
  inEnvironment : Lookup.ofArguments arguments = {} → (∀ f ∈ arguments, f.1 ≠ uriName) →
    (∀ e ∈ environment, e.1 ≠ uriName) → ∀ text,
      read arguments ((uriName, text) :: environment) = .ok (withUri s (codePoints text))
  /-- The usual parts can be told from an address that is put together of the usual parts, -/
  plain : explicitUri? arguments environment = none → s.database.IsPlain →
    ∀ arguments' environment' s', read arguments' environment' = .ok s' →
      explicitUri? arguments' environment' = none → s'.database.IsPlain →
      s'.database.uri = s.database.uri → s.database.SameParts s'.database
  /-- and from any address that is put together exactly the separable ones. -/
  told_iff : explicitUri? arguments environment = none → (∀ p ∈ s.database.uri, p < 0x110000) →
    ((∀ arguments' environment' s', read arguments' environment' = .ok s' →
      explicitUri? arguments' environment' = none → s'.database.uri = s.database.uri →
      s.database.SameParts s'.database) ↔ s.database.IsSeparable)

section
variable {arguments arguments' : List (String × Json)} {environment environment' :
  List (String × String)} {s s' : Settings}

theorem uri_eq_of_read (h : read arguments environment = .ok s) :
    s.database.uri = (explicitUri? arguments environment).getD s.database.assembledUri := by
  rw [Database.uri, givenUri_of_read h]

theorem uri_eq_iff_of_read (h : read arguments environment = .ok s)
    (h' : read arguments' environment' = .ok s') (hnone : explicitUri? arguments environment = none)
    (hnone' : explicitUri? arguments' environment' = none) :
    s'.database.uri = s.database.uri ↔ s.database.address = s'.database.address := by
  rw [uri_eq_of_read h, uri_eq_of_read h', hnone, hnone', eq_comm]
  exact Database.assembledUri_eq_iff

/-- **Only separable parts are told by an address**, as any others can be set. -/
theorem isSeparable_of_read (h : read arguments environment = .ok s)
    (hnone : explicitUri? arguments environment = none)
    (hpoints : ∀ p ∈ s.database.uri, p < 0x110000)
    (htold : ∀ arguments' environment' s', read arguments' environment' = .ok s' →
      explicitUri? arguments' environment' = none → s'.database.uri = s.database.uri →
      s.database.SameParts s'.database) : s.database.IsSeparable := by
  refine Database.isSeparable_of_told fun e he => ?_
  have hsub : ∀ p ∈ e.address, p < 0x110000 := by
    intro p hp
    refine hpoints p ?_
    rw [uri_eq_of_read h, hnone, Option.getD_none, Database.assembledUri_eq, ← he]
    exact List.mem_append_right _ hp
  have hread := read_arguments hsub
  have hsame := htold _ _ _ hread rfl ((uri_eq_iff_of_read h hread hnone rfl).mpr he.symm)
  exact ⟨hsame.user, hsame.password, hsame.server, hsame.name⟩

/-- **The address of the database.** -/
theorem addressLaws (h : read arguments environment = .ok s) :
    AddressLaws arguments environment s where
  uri_eq := uri_eq_of_read h
  asArgument ha _ _ hv := read_uri_argument h ha hv
  inEnvironment hl ha he text := read_uri_environment h hl ha he text
  plain hnone hplain _ _ _ h' hnone' hplain' huri :=
    hplain.sameParts hplain' ((uri_eq_iff_of_read h h' hnone hnone').mp huri)
  told_iff hnone hpoints :=
    ⟨isSeparable_of_read h hnone hpoints, fun hseparable _ _ _ h' hnone' huri =>
      hseparable.sameParts ((uri_eq_iff_of_read h h' hnone hnone').mp huri)⟩

end

/-- A database with a password that holds all three separators. -/
def guarded : Database :=
  { defaultDatabase with user := codePoints "svc", password := codePoints "a:b@c/d" }

theorem addressLaws_guarded :
    read [("POSTGRESQL_USER", .text "svc")] [("POSTGRESQL_PASSWORD", "a:b@c/d")] =
      .ok { default with database := guarded } ∧ guarded.IsPlain ∧ ¬guarded.IsSeparable ∧
    AddressLaws [("POSTGRESQL_USER", .text "svc")] [("POSTGRESQL_PASSWORD", "a:b@c/d")]
      { default with database := guarded } := by
  have hs : read [("POSTGRESQL_USER", .text "svc")] [("POSTGRESQL_PASSWORD", "a:b@c/d")] =
      .ok { default with database := guarded } := rfl
  exact ⟨hs, ⟨by decide, by decide, by decide⟩, fun h => absurd h.password.1 (by decide),
    addressLaws hs⟩

/-- **Two settings with one address**: what belongs to the password of the first one is taken to
belong to the server of the second one. -/
theorem uri_not_injective :
    let first := { defaultDatabase with
      user := codePoints "svc", password := codePoints "p@ss", server := codePoints "db" }
    let second := { defaultDatabase with
      user := codePoints "svc", password := codePoints "p", server := codePoints "ss@db" }
    read [("POSTGRESQL_USER", .text "svc"), ("POSTGRESQL_PASSWORD", .text "p@ss"),
      ("POSTGRESQL_SERVER", .text "db")] [] = .ok { default with database := first } ∧
    read [("POSTGRESQL_USER", .text "svc"), ("POSTGRESQL_PASSWORD", .text "p"),
      ("POSTGRESQL_SERVER", .text "ss@db")] [] = .ok { default with database := second } ∧
    first.givenUri = none ∧ second.givenUri = none ∧ first.uri = second.uri ∧
    ¬first.SameParts second := by
  intro first second
  exact ⟨rfl, rfl, rfl, rfl, rfl, fun h => absurd h.password (by decide)⟩

end Gazetteer.Settings
