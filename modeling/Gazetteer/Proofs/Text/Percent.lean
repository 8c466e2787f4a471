import Gazetteer.Proofs.Text.Separation
import Mathlib.Tactic.SplitIfs

/-!
# What an escaped text looks like

In an escaped text each `%` begins a complete escape, with two digits in capitals; everything else
is of the class of characters that stand for themselves.  The octets that the text denotes are those
that the library gives a text in UTF-8.

* `IsEscaped`, `isEscaped_escape`: the form of an escaped text;
* `escape_eq_nil_iff`: only the empty text is escaped to nothing;
* `Utf8.encode_toList`: the octets of a text are those of the library.
-/

namespace Gazetteer.Text

namespace Percent

variable {keep : Char → Bool} {P : Char → Prop} {c : Char} {cs ds : List Char}

/-- A digit of an escape. -/
def IsCapitalDigit (c : Char) : Prop := c ∈ "0123456789ABCDEF".toList

instance (c : Char) : Decidable (IsCapitalDigit c) := inferInstanceAs (Decidable (c ∈ _))

/-- **The form of an escaped text**: characters with the property `P`, and complete escapes. -/
inductive IsEscaped (P : Char → Prop) : List Char → Prop
  | nil : IsEscaped P []
  | kept {c : Char} {cs : List Char} (hc : P c) (h : IsEscaped P cs) : IsEscaped P (c :: cs)
  | octet {a b : Char} {cs : List Char} (ha : IsCapitalDigit a) (hb : IsCapitalDigit b)
      (h : IsEscaped P cs) : IsEscaped P ('%' :: a :: b :: cs)

theorem IsEscaped.append (hcs : IsEscaped P cs) (hds : IsEscaped P ds) :
    IsEscaped P (cs ++ ds) := by
  induction hcs with
  | nil => exact hds
  | kept hc _ ih => exact .kept hc ih
  | octet ha hb _ ih => exact .octet ha hb ih

theorem isCapitalDigit_capitalDigit : ∀ n < 16, IsCapitalDigit (capitalDigit n) := by decide

theorem isEscaped_escapeOctets (P : Char → Prop) {ns : List Nat} (h : ∀ n ∈ ns, n < 256) :
    IsEscaped P (ns.flatMap escapeOctet) := by
  induction ns with
  | nil => exact .nil
  | cons n ns ih =>
    obtain ⟨hn, hns⟩ := List.forall_mem_cons.mp h
    have hfirst := isCapitalDigit_capitalDigit (n / 16) (by omega)
    have hsecond := isCapitalDigit_capitalDigit (n % 16) (by omega)
    exact .octet hfirst hsecond (ih hns)

/-- **An escaped text has the form of one.** -/
theorem isEscaped_escape (h : ∀ c, keep c → P c) (cs : List Char) :
    IsEscaped P (escape keep cs) := by
  induction cs with
  | nil => exact .nil
  | cons c cs ih =>
    rw [escape, List.flatMap_cons, ← escape]
    refine .append ?_ ih
    unfold escapeChar
    split
    · next hc => exact .kept (h c hc) .nil
    · exact isEscaped_escapeOctets P fun n hn => Utf8.lt_of_mem_encodeChar hn

theorem escape_eq_nil_iff (hk : keep '%' = false) : escape keep cs = [] ↔ cs = [] :=
  ⟨fun h => escape_injective hk h, fun h => congrArg (escape keep) h⟩

end Percent

/-! ## The octets of a text -/

namespace Utf8

theorem encodeChar_eq (c : Char) : encodeChar c = (String.utf8EncodeChar c).map UInt8.toNat := by
  have hval : c.val.toNat = c.toNat := rfl
  have hc : c.toNat < 0xD800 ∨ 0xDFFF < c.toNat ∧ c.toNat < 0x110000 := c.valid
  -- one to four octets, with the same bounds on both sides
  have h₁ : c.toNat ≤ 127 ↔ c.toNat < 0x80 := by omega
  have h₂ : c.toNat ≤ 2047 ↔ c.toNat < 0x800 := by omega
  have h₃ : c.toNat ≤ 65535 ↔ c.toNat < 0x10000 := by omega
  simp only [encodeChar, String.utf8EncodeChar, hval, h₁, h₂, h₃]
  split_ifs
  all_goals
    simp only [List.map_cons, List.map_nil, UInt8.toNat_ofNat', List.cons.injEq, and_true]
    omega

/-- **The octets of a text** are those that the library gives it. -/
theorem encode_toList (s : String) : encode s.toList = s.toUTF8.data.toList.map UInt8.toNat := by
  rw [String.toUTF8, ← String.utf8Encode_toList, List.utf8Encode, List.toList_data_toByteArray,
    List.map_flatMap, encode]
  exact congrArg (List.flatMap · _) (funext encodeChar_eq)

end Utf8

end Gazetteer.Text
