import Gazetteer.Proofs.Store.Session
import Gazetteer.Proofs.Url.Host
import Gazetteer.Url.Reader

/-!
# Origins of pages

A browser tells the origin of a page by its scheme, its host and its port, with nothing behind them.
As an address this is the root of the site, which is written with a slash at the end.

* `Origin`, `Origin.text`: an origin as a browser tells it;
* `Origin.read_text`: the address that it is read as; `Origin.text_address`: how that is written;
* `Origin.text_ne_slash`: no origin ends in a slash.
-/

namespace Gazetteer

open Number Text

/-- **The origin of a page**: the scheme, the host in its written form, and the port unless it is
the usual one. -/
structure Origin where
  scheme : String
  host : String
  port : Option Nat
  isWeb : scheme = "http" ∨ scheme = "https"
  written : Host.normalize host.toList = .ok host
  isUnusual : ∀ n ∈ port, n ≤ 65535 ∧ Address.usualPorts.lookup scheme ≠ some (natText n)

namespace Origin

/-- The host and the port as a browser tells them. -/
def place (o : Origin) : List Char :=
  o.host.toList ++ match o.port with
    | some n => ':' :: natDigits n
    | none => []

/-- **An origin as a browser tells it.** -/
def text (o : Origin) : String := o.scheme ++ "://" ++ String.ofList o.place

/-- The root of the site. -/
def address (o : Origin) : Address :=
  ⟨o.scheme, "", o.host, o.port.map natText, [""], none, none⟩

theorem text_address (o : Origin) : o.address.text = o.text ++ "/" := by
  have hempty : String.intercalate "/" [""] = "" := rfl
  apply String.toList_inj.mp
  unfold Address.text text place address
  cases o.port with
  | none => simp [hempty]
  | some n => simp [hempty, natText]

/-- A character that stands in a host or a port. -/
def isInner (c : Char) : Bool := 0x20 < c.toNat && !Address.endsAuthority c && c ≠ '@'

theorem isInner_iff {c : Char} :
    isInner c ↔ 0x20 < c.toNat ∧ Address.endsAuthority c = false ∧ c ≠ '@' := by
  simp [isInner, and_assoc]

theorem isInner_of_isWritten {cs : List Char} (h : Host.IsWritten cs) :
    ∀ c ∈ cs, isInner c := by
  cases h with
  | plain _ h =>
    intro c hc
    have hplain := h c hc
    have hne : ∀ d, Domain.isForbidden d → c ≠ d := by
      rintro d hd rfl
      rw [hplain] at hd
      cases hd
    have hlow : 0x20 < c.toNat := by
      by_contra hle
      simp [Domain.isForbidden, not_lt.mp hle] at hplain
    refine isInner_iff.mpr ⟨hlow, ?_, hne '@' rfl⟩
    simp [Address.endsAuthority, Address.isSlash, hne '/' rfl, hne '\\' rfl, hne '?' rfl,
      hne '#' rfl]
  | bracketed h =>
    intro c hc
    simp only [List.cons_append, List.mem_cons, List.mem_append, List.not_mem_nil, or_false] at hc
    have hdigit : ∀ n < 16, isInner (hexDigit n) := by decide
    rcases hc with rfl | hc | rfl
    · decide
    · rcases h c hc with rfl | ⟨n, hn, rfl⟩
      · decide
      · exact hdigit n hn
    · decide

theorem isInner_place (o : Origin) : ∀ c ∈ o.place, isInner c := by
  have hhost := isInner_of_isWritten (Host.isWritten_of_normalize o.written)
  intro c hc
  rcases List.mem_append.mp hc with hc | hc
  · exact hhost c hc
  · cases hp : o.port with
    | none => rw [hp] at hc; cases hc
    | some n =>
      rw [hp] at hc
      rcases List.mem_cons.mp hc with rfl | hc
      · decide
      · exact of_isDigit (P := fun c => isInner c) (by decide) (isDigit_of_mem_natDigits hc)

theorem place_ne_nil (o : Origin) : o.place ≠ [] := by
  have hhost := (Host.isWritten_of_normalize o.written).ne_nil
  exact List.append_ne_nil_of_left_ne_nil hhost _

/-- **No origin ends in a slash.** -/
theorem text_ne_slash (o : Origin) (s : String) : o.text ≠ s ++ "/" := by
  intro h
  have hlast : o.text.toList.getLast? = o.place.getLast? := by
    rw [text, String.toList_append, String.toList_ofList,
      List.getLast?_append_of_ne_nil _ o.place_ne_nil]
  rw [h, String.toList_append, show "/".toList = ['/'] from rfl, List.getLast?_concat] at hlast
  have hslash := isInner_place o '/' (List.mem_of_getLast? hlast.symm)
  cases hslash

/-! ## Reading -/

theorem cutAtPort_cons {b : Bool} {c : Char} (h : ¬(c = ':' ∧ !b)) (b' : Bool)
    (hb : (if c = '[' then true else if c = ']' then false else b) = b') (cs : List Char) :
    Address.cutAtPort b (c :: cs) =
      (c :: (Address.cutAtPort b' cs).1, (Address.cutAtPort b' cs).2) := by
  rw [Address.cutAtPort, if_neg h, hb]

/-- Characters without a colon outside brackets belong to the host. -/
theorem cutAtPort_append {cs : List Char} {b : Bool}
    (h : ∀ c ∈ cs, (c = ':' → b) ∧ c ≠ '[' ∧ c ≠ ']') (rest : List Char) :
    Address.cutAtPort b (cs ++ rest) =
      (cs ++ (Address.cutAtPort b rest).1, (Address.cutAtPort b rest).2) := by
  induction cs with
  | nil => rfl
  | cons c cs ih =>
    obtain ⟨hcolon, hopen, hclose⟩ := h c List.mem_cons_self
    have hinside : ¬(c = ':' ∧ !b) := by
      rintro ⟨hc, hb⟩
      rw [hcolon hc] at hb
      cases hb
    have hstays : (if c = '[' then true else if c = ']' then false else b) = b := by
      rw [if_neg hopen, if_neg hclose]
    rw [List.cons_append, cutAtPort_cons hinside b hstays,
      ih fun d hd => h d (List.mem_cons_of_mem c hd)]
    rfl

/-- **A written host ends where the colon of a port stands.** -/
theorem cutAtPort_of_isWritten {cs : List Char} (h : Host.IsWritten cs) (rest : List Char) :
    Address.cutAtPort false (cs ++ rest) =
      (cs ++ (Address.cutAtPort false rest).1, (Address.cutAtPort false rest).2) := by
  cases h with
  | plain _ h =>
    refine cutAtPort_append (fun c hc => ?_) rest
    have hne : ∀ d, Domain.isForbidden d → c ≠ d := by
      rintro d hd rfl
      rw [h c hc] at hd
      cases hd
    exact ⟨fun hcolon => absurd hcolon (hne ':' rfl), hne '[' rfl, hne ']' rfl⟩
  | @bracketed cs h =>
    have hdigit : ∀ n < 16, hexDigit n ≠ '[' ∧ hexDigit n ≠ ']' := by decide
    have hkept : ∀ c ∈ cs, (c = ':' → true) ∧ c ≠ '[' ∧ c ≠ ']' := by
      intro c hc
      rcases h c hc with rfl | ⟨n, hn, rfl⟩
      · decide
      · exact ⟨fun _ => rfl, hdigit n hn⟩
    have hinside := cutAtPort_append hkept (']' :: rest)
    rw [List.append_assoc, List.cons_append, List.singleton_append,
      cutAtPort_cons (by decide) true rfl, hinside, cutAtPort_cons (by decide) false rfl]
    simp

theorem cutAtPort_place (o : Origin) :
    Address.cutAtPort false o.place = (o.host.toList, o.port.map natDigits) := by
  rw [place, cutAtPort_of_isWritten (Host.isWritten_of_normalize o.written)]
  cases o.port with
  | none => simp [Address.cutAtPort]
  | some n => simp [Address.cutAtPort]

/-- The port is told, for it is not the usual one. -/
theorem portText?_natDigits {usual : String} {n : Nat} (h : n ≤ 65535) (hne : natText n ≠ usual) :
    Address.portText? usual (some (natDigits n)) = .ok (some (natText n)) := by
  have hdigits : (natDigits n).all Char.isDigit := by
    rw [List.all_eq_true]
    exact fun c hc => isDigit_of_mem_natDigits hc
  unfold Address.portText?
  split
  · next heq => cases heq
  · next heq => exact absurd (Option.some.inj heq) (natDigits_ne_nil n)
  · next digits _ heq =>
    obtain rfl := Option.some.inj heq
    rw [hdigits, digitsValue_natDigits, if_neg (by simpa using h)]
    dsimp only
    rw [if_neg hne]

/-- **Host and port are read up to the end.** -/
theorem authority_place (o : Origin) {usual : String}
    (h : Address.usualPorts.lookup o.scheme = some usual) :
    Address.authority o.scheme usual o.place = .ok o.address := by
  have hinner : ∀ c ∈ o.place, Address.endsAuthority c = false ∧ c ≠ '@' := fun c hc =>
    (isInner_iff.mp (isInner_place o c hc)).2
  have hall : o.place.takeWhile (fun c => !Address.endsAuthority c) = o.place :=
    List.takeWhile_eq_self_iff.mpr fun c hc => by simp [(hinner c hc).1]
  have hsign : Address.cutAtLast '@' o.place = none := by
    unfold Address.cutAtLast
    rw [if_neg]
    simpa using fun hc => (hinner '@' hc).2 rfl
  have hport : Address.portText? usual (o.port.map natDigits) = .ok (o.port.map natText) := by
    cases hp : o.port with
    | none => rfl
    | some n =>
      obtain ⟨hle, hne⟩ := o.isUnusual n hp
      exact portText?_natDigits hle fun heq => hne (by rw [heq, h])
  have hpath : Address.segments [] = [""] := by decide
  unfold Address.authority
  simp only [hall, List.drop_length, hsign, cutAtPort_place, o.written, hport, cutAt, ok_bind,
    hpath, Option.map_none]
  rfl

/-- **An origin is read as the root of its site.** -/
theorem read_text (o : Origin) : Address.read o.text = .ok o.address := by
  have hchars : o.text.toList = o.scheme.toList ++ "://".toList ++ o.place := by
    simp only [text, String.toList_append, String.toList_ofList]
  have hfront : (o.scheme.toList ++ "://".toList).all (0x20 < ·.toNat) := by
    rcases o.isWeb with hs | hs <;> rw [hs] <;> decide
  have hhigh : ∀ c ∈ o.text.toList, 0x20 < c.toNat := by
    intro c hc
    rw [hchars] at hc
    rcases List.mem_append.mp hc with hc | hc
    · exact of_decide_eq_true (List.all_eq_true.mp hfront c hc)
    · exact (isInner_iff.mp (isInner_place o c hc)).1
  have htrim : trimBy (fun c => decide (c.toNat ≤ 0x20)) o.text.toList = o.text.toList :=
    trimBy_eq_self (fun c hc => by simpa using hhigh c (List.mem_of_mem_head? hc))
      fun c hc => by simpa using hhigh c (List.mem_of_getLast? hc)
  have hkept : o.text.toList.filter (!Address.isIgnored ·) = o.text.toList := by
    rw [List.filter_eq_self]
    intro c hc
    have hne : ∀ d : Char, d.toNat ≤ 0x20 → c ≠ d := by
      rintro d hd rfl
      exact absurd (hhigh c hc) (not_lt.mpr hd)
    simp [Address.isIgnored, hne '\t' (by decide), hne '\n' (by decide), hne '\r' (by decide)]
  have hslashes : ('/' :: '/' :: o.place).dropWhile Address.isSlash = o.place := by
    obtain ⟨c, cs, hplace⟩ := List.exists_cons_of_ne_nil o.place_ne_nil
    have hends := (isInner_iff.mp (isInner_place o c (hplace ▸ List.mem_cons_self))).2.1
    have hslash : Address.isSlash c = false := by
      rw [Address.endsAuthority, Bool.or_eq_false_iff, Bool.or_eq_false_iff] at hends
      exact hends.1.1
    rw [hplace, List.dropWhile_cons_of_pos (by decide), List.dropWhile_cons_of_pos (by decide),
      List.dropWhile_cons_of_neg (by simp [hslash])]
  have hscheme : Address.scheme? o.text.toList = some (o.scheme, '/' :: '/' :: o.place) := by
    rw [hchars]
    rcases o.isWeb with hs | hs <;> rw [hs] <;> rfl
  obtain ⟨usual, hport⟩ : ∃ usual, Address.usualPorts.lookup o.scheme = some usual := by
    rcases o.isWeb with hs | hs <;> rw [hs] <;> exact ⟨_, rfl⟩
  have hne : o.text ≠ "" := by
    rintro h
    rw [h] at hscheme
    cases hscheme
  unfold Address.read
  rw [if_neg hne, htrim, hkept]
  dsimp only
  rw [hscheme]
  dsimp only
  rw [hport]
  dsimp only
  rw [hslashes, authority_place o hport]

theorem isWeb_address (o : Origin) : o.address.isWeb := by
  rw [Address.isWeb, Bool.or_eq_true, decide_eq_true_eq, decide_eq_true_eq]
  exact o.isWeb

end Origin

end Gazetteer
