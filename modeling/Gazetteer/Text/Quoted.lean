import Gazetteer.Text.Hexadecimal
import Gazetteer.Text.Printable

/-!
# Quoted texts

Messages show a text between quotes.  The quotes are single ones unless the text holds a single
quote and no double one; the quote in use and the backslash get a backslash in front, the tabulator
and the two line ends are written `\\t`, `\\n` and `\\r`, and every other character that is not
printable is written by its code in two, four or eight hexadecimal digits.

* `quoted`, `quotedPoints`: the text between quotes;
* `quoteFor`: the quote in use.
-/

namespace Gazetteer.Text

/-- The quote that a text is put between. -/
def quoteFor (cs : List Char) : Char :=
  if cs.contains '\'' && !cs.contains '"' then '"' else '\''

/-- A character as it stands between the quotes. -/
def quotedChar (quote c : Char) : List Char :=
  if c = quote || c = '\\' then ['\\', c]
  else if c = '\t' then ['\\', 't']
  else if c = '\n' then ['\\', 'n']
  else if c = '\r' then ['\\', 'r']
  else if isPrintable c then [c]
  else if c.toNat < 0x100 then '\\' :: 'x' :: hexPadded 2 c.toNat
  else if c.toNat < 0x10000 then '\\' :: 'u' :: hexPadded 4 c.toNat
  else '\\' :: 'U' :: hexPadded 8 c.toNat

/-- A code point as it stands between the quotes; half a surrogate pair is written by its code. -/
def quotedPoint (quote : Char) (point : Nat) : List Char :=
  if 0xD800 ≤ point ∧ point ≤ 0xDFFF then '\\' :: 'u' :: hexPadded 4 point
  else quotedChar quote (Char.ofNat point)

/-- A text by its code points between quotes. -/
def quotedPoints (points : List Nat) : String :=
  let quote := quoteFor (points.map Char.ofNat)
  String.ofList (quote :: points.flatMap (quotedPoint quote) ++ [quote])

/-- **A text between quotes.** -/
def quoted (s : String) : String :=
  let quote := quoteFor s.toList
  String.ofList (quote :: s.toList.flatMap (quotedChar quote) ++ [quote])

end Gazetteer.Text
