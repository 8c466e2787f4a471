import Gazetteer.Text.Utf8
import Gazetteer.Text.Wide

/-!
# JSON texts as octets

A JSON text begins with a character of ASCII, so the places of the null octets at its front show
whether it is written in units of eight, sixteen or thirty-two bits, and in which order.

* `Json.textOfOctets?`: the text that octets are.
-/

namespace Gazetteer.Json

open Text

/-- How characters are written as octets. -/
inductive OctetForm where
  | eight
  | sixteen (order : ByteOrder)
  | thirtyTwo (order : ByteOrder)
  deriving DecidableEq, Repr

/-- **How a JSON text is written**, by the octets at its front. -/
def octetForm : List Nat → OctetForm
  | [0, _] => .sixteen .big
  | [_, 0] => .sixteen .little
  | 0 :: 0 :: _ :: _ :: _ => .thirtyTwo .big
  | 0 :: _ :: _ :: _ :: _ => .sixteen .big
  | _ :: 0 :: 0 :: 0 :: _ => .thirtyTwo .little
  | _ :: 0 :: _ :: _ :: _ => .sixteen .little
  | _ => .eight

/-- A text without a mark of the byte order in front. -/
def withoutMark : List Char → List Char
  | '\uFEFF' :: cs => cs
  | cs => cs

/-- **The text that octets are**, if they are one in the form that their front shows. -/
def textOfOctets? (octets : List Nat) : Option (List Char) :=
  match octetForm octets with
  | .eight => some (withoutMark (Utf8.decode octets))
  | .sixteen order => Wide.decode16? order octets
  | .thirtyTwo order => Wide.decode32? order octets

end Gazetteer.Json
