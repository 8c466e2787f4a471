import Gazetteer.Text.Hexadecimal
import Gazetteer.Text.Utf8

/-!
# Percent escapes

A text is put into a narrower alphabet by writing every other character as its UTF-8 octets, each as
`%` and two capital hexadecimal digits.

* `escape keep`: the characters of the class `keep` stand for themselves, all others are escaped;
* `unescape`: complete escapes are replaced by their octets, everything else stands for itself, and
  the octets are read as UTF-8;
* `isUnreserved`: the ASCII letters, digits and `-._~`.

Main statement, `unescape_escape`: a text that is escaped with `%` outside the class is read back.
-/

namespace Gazetteer.Text.Percent

/-- A letter, a digit or one of `-._~`, all of ASCII. -/
def isUnreserved (c : Char) : Bool :=
  c.isAlphanum || c = '-' || c = '.' || c = '_' || c = '~'

/-- A hexadecimal digit in capitals. -/
def capitalDigit (n : Nat) : Char :=
  if n < 10 then Char.ofNat (48 + n) else Char.ofNat (55 + n)

/-- The escape of an octet. -/
def escapeOctet (n : Nat) : List Char := ['%', capitalDigit (n / 16), capitalDigit (n % 16)]

/-- A character, escaped unless it is in the class `keep`. -/
def escapeChar (keep : Char → Bool) (c : Char) : List Char :=
  if keep c then [c] else (Utf8.encodeChar c).flatMap escapeOctet

/-- **A text with all characters outside the class `keep` escaped.** -/
def escape (keep : Char → Bool) (cs : List Char) : List Char := cs.flatMap (escapeChar keep)

/-- The octets that a text denotes: those of its escapes, and those of its other characters. -/
def octets : List Char → List Nat
  | [] => []
  | '%' :: a :: b :: rest =>
    match hexValue? a, hexValue? b with
    | some m, some n => (16 * m + n) :: octets rest
    | _, _ => Utf8.encodeChar '%' ++ octets (a :: b :: rest)
  | c :: rest => Utf8.encodeChar c ++ octets rest

/-- **A text with its escapes replaced by the characters that they denote.** -/
def unescape (cs : List Char) : List Char := Utf8.decode (octets cs)

/-- A text with existing escapes left as they are. -/
def escapeAround (keep : Char → Bool) : List Char → List Char
  | [] => []
  | '%' :: a :: b :: rest =>
    if (hexValue? a).isSome && (hexValue? b).isSome then '%' :: a :: b :: escapeAround keep rest
    else escapeChar keep '%' ++ escapeAround keep (a :: b :: rest)
  | c :: rest => escapeChar keep c ++ escapeAround keep rest

/-! ## Nothing is lost -/

theorem hexValue?_capitalDigit : ∀ n < 16, hexValue? (capitalDigit n) = some n := by decide

theorem octets_escapeOctet {n : Nat} (h : n < 256) (rest : List Char) :
    octets (escapeOctet n ++ rest) = n :: octets rest := by
  have h₁ := hexValue?_capitalDigit (n / 16) (by omega)
  have h₂ := hexValue?_capitalDigit (n % 16) (by omega)
  simp only [escapeOctet, List.cons_append, List.nil_append, octets, h₁, h₂]
  congr 1
  omega

theorem octets_cons_of_ne {c : Char} (h : c ≠ '%') (rest : List Char) :
    octets (c :: rest) = Utf8.encodeChar c ++ octets rest := by
  rw [octets.eq_def]
  split <;> simp_all

theorem octets_escapeOctets {ns : List Nat} (h : ∀ n ∈ ns, n < 256) (rest : List Char) :
    octets (ns.flatMap escapeOctet ++ rest) = ns ++ octets rest := by
  induction ns with
  | nil => rfl
  | cons n ns ih =>
    rw [List.flatMap_cons, List.append_assoc, octets_escapeOctet (h n (by simp)),
      ih fun m hm => h m (by simp [hm])]
    rfl

/-- **An escaped text denotes the octets of the text.** -/
theorem octets_escape {keep : Char → Bool} (hk : keep '%' = false) (cs : List Char) :
    octets (escape keep cs) = Utf8.encode cs := by
  induction cs with
  | nil => rfl
  | cons c cs ih =>
    rw [escape, List.flatMap_cons, ← escape, Utf8.encode, List.flatMap_cons, ← Utf8.encode, ← ih]
    unfold escapeChar
    split
    · next h =>
      have hc : c ≠ '%' := by
        rintro rfl
        simp [hk] at h
      rw [List.cons_append, List.nil_append, octets_cons_of_ne hc]
    · exact octets_escapeOctets (fun n hn => Utf8.lt_of_mem_encodeChar hn) _

/-- **Escaping loses nothing.** -/
theorem unescape_escape {keep : Char → Bool} (hk : keep '%' = false) (cs : List Char) :
    unescape (escape keep cs) = cs := by
  rw [unescape, octets_escape hk, Utf8.decode_encode]

end Gazetteer.Text.Percent
