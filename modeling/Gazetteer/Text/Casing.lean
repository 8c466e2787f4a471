import Gazetteer.Text.CasingTable
import Gazetteer.Text.Spans

/-!
# Upper and lower case

Case mapping of whole texts over all of Unicode.  Capitalising may lengthen a text (`ß` becomes
`SS`), and a capital sigma at the end of a word becomes `ς` instead of `σ`.

* `upper`, `lower`: the mappings of texts;
* `upperChar_of_ascii`: on ASCII capitalising is the plain mapping of letters.
-/

namespace Gazetteer.Text

/-- The image of `c` under the first row that covers it. -/
def mapByRows (rows : List CaseRow) (c : Char) : Char :=
  match rows.find? fun (first, last, step, _) =>
      first ≤ c.toNat && c.toNat ≤ last && (c.toNat - first) % step == 0 with
  | some (_, _, _, shift) => Char.ofNat (c.toNat + shift).toNat
  | none => c

/-- The capital form of a character. -/
def upperChar (c : Char) : List Char :=
  if c.toNat < 128 then [c.toUpper]
  else match upperExpansions.lookup c.toNat with
    | some codes => codes.map Char.ofNat
    | none => [mapByRows upperRows c]

/-- The small form of a character, whatever stands around it. -/
def lowerChar (c : Char) : List Char :=
  if c.toNat < 128 then [c.toLower]
  else if c = 'İ' then ['i', '\u0307']
  else [mapByRows lowerRows c]

/-- Whether a cased character comes next, ignorable ones skipped. -/
def startsCased (cs : List Char) : Bool :=
  match cs.dropWhile (inSpans ignorableSpans) with
  | [] => false
  | c :: _ => inSpans casedSpans c

/-- The small form of a text; `afterCased` tells whether a cased character came last before it,
ignorable ones skipped. -/
def lowerFrom (afterCased : Bool) : List Char → List Char
  | [] => []
  | c :: cs =>
    let isFinal := afterCased && !startsCased cs
    let small := if c = 'Σ' then [if isFinal then 'ς' else 'σ'] else lowerChar c
    let cased := if inSpans ignorableSpans c then afterCased else inSpans casedSpans c
    small ++ lowerFrom cased cs

/-- **A text in capitals.** -/
def upper (s : String) : String := String.ofList (s.toList.flatMap upperChar)

/-- **A text in small letters.** -/
def lower (s : String) : String := String.ofList (lowerFrom false s.toList)

theorem upperChar_of_ascii {c : Char} (h : c.toNat < 128) : upperChar c = [c.toUpper] := by
  simp [upperChar, h]

end Gazetteer.Text
