import Gazetteer.Text.Hexadecimal

/-!
# Templates of paths

A template is a path in which names in braces stand for what differs from path to path.  After a
colon a name may say what it stands for; one that says nothing stands for a segment.  A name takes
as many characters as it can, and gives some of them back if the rest of the path would not fit.

* `Template.read`: the template that a text is;
* `Template.match?`: what the names stand for in a path that fits;
* `match?_letters`: a template without names fits itself.
-/

namespace Gazetteer.Http

open Text

/-- What a name in a path may stand for. -/
inductive ParameterKind where
  /-- One or more characters other than a slash. -/
  | segment
  /-- All characters up to a line break. -/
  | rest
  | digits
  /-- Digits, and perhaps a point with further ones. -/
  | decimal
  /-- Thirty-two hexadecimal digits, with or without hyphens between their groups. -/
  | identifier
  deriving DecidableEq, Repr

namespace ParameterKind

/-- The kinds and the words for them. -/
def words : List (String × ParameterKind) :=
  [("str", .segment), ("path", .rest), ("int", .digits), ("float", .decimal),
    ("uuid", .identifier)]

/-- The numbers from the greatest down to the least. -/
def down (greatest least : Nat) : List Nat :=
  (List.range (greatest + 1 - least)).map (greatest - ·)

/-- The number of characters of groups of hexadecimal digits at the front of a text. -/
def groupsLength? : List Nat → List Char → Option Nat
  | [], _ => some 0
  | n :: ns, cs =>
    if (cs.take n).length = n ∧ (cs.take n).all fun c => (hexValue? c).isSome then
      let after := cs.drop n
      let hyphen := if !ns.isEmpty && after.head? = some '-' then 1 else 0
      (groupsLength? ns (after.drop hyphen)).map (n + hyphen + ·)
    else none

/-- The numbers of characters that make a row of digits with or without a fraction. -/
def decimalLengths (cs : List Char) : List Nat :=
  let whole := (cs.takeWhile Char.isDigit).length
  let fractions := match whole, cs.drop whole with
    | _ + 1, '.' :: after =>
      (down (after.takeWhile Char.isDigit).length 1).map (whole + 1 + ·)
    | _, _ => []
  fractions ++ down whole 1

/-- **How many characters at the front of a text a name may take**, the first choice first. -/
def lengths : ParameterKind → List Char → List Nat
  | .segment, cs => down (cs.takeWhile (· ≠ '/')).length 1
  | .rest, cs => down (cs.takeWhile (· ≠ '\n')).length 0
  | .digits, cs => down (cs.takeWhile Char.isDigit).length 1
  | .decimal, cs => decimalLengths cs
  | .identifier, cs => (groupsLength? [8, 4, 4, 4, 12] cs).toList

end ParameterKind

/-- A piece of a template. -/
inductive TemplatePiece where
  | letter (c : Char)
  | parameter (name : String) (kind : ParameterKind)
  deriving DecidableEq, Repr

/-- **A template of paths.** -/
abbrev Template := List TemplatePiece

/-- Why a text is no template. -/
inductive TemplateFault where
  | unknownKind (word : String)
  /-- Names that occur more than once in the text. -/
  | repeatedNames (names : List String) (text : String)
  deriving DecidableEq, Repr

/-- The wording of a fault. -/
def TemplateFault.message : TemplateFault → String
  | .unknownKind word => "Unknown path convertor '" ++ word ++ "'"
  | .repeatedNames names text =>
    "Duplicated param name" ++ (if names.length = 1 then " " else "s ")
      ++ String.intercalate ", " names ++ " at path " ++ text

namespace Template

/-! ## Reading -/

def isNameStart (c : Char) : Bool := c.isAlpha || c = '_'

def isNamePart (c : Char) : Bool := c.isAlphanum || c = '_'

/-- The name at the front of a text, if there is one. -/
def nameAt? (cs : List Char) : Option (List Char) :=
  match cs.takeWhile isNamePart with
  | c :: name => if isNameStart c then some (c :: name) else none
  | [] => none

/-- The name and the word for its kind that stand between an opening brace and a closing one, and
the number of characters after the opening brace. -/
def parameterAt? (cs : List Char) : Option (String × String × Nat) := do
  let name ← nameAt? cs
  match cs.drop name.length with
  | '\x7d' :: _ => some (String.ofList name, "str", name.length + 1)
  | ':' :: rest =>
    let word ← nameAt? rest
    if (rest.drop word.length).head? = some '\x7d' then
      some (String.ofList name, String.ofList word, name.length + word.length + 2)
    else none
  | _ => none

/-- The pieces of the text that follows after `skip` characters. -/
def piecesFrom (skip : Nat) : List Char → Except TemplateFault Template
  | [] => .ok []
  | c :: cs =>
    if skip ≠ 0 then piecesFrom (skip - 1) cs
    else
      match if c = '\x7b' then parameterAt? cs else none with
      | some (name, word, length) =>
        match ParameterKind.words.lookup word with
        | some kind => (.parameter name kind :: ·) <$> piecesFrom length cs
        | none => .error (.unknownKind word)
      | none => (.letter c :: ·) <$> piecesFrom 0 cs

/-- The names of a template. -/
def names (t : Template) : List String :=
  t.filterMap fun
    | .parameter name _ => some name
    | .letter _ => none

/-- The names that occur more than once, in alphabetical order. -/
def repeated (t : Template) : List String :=
  ((t.names.filter fun name => 1 < t.names.count name).eraseDups).mergeSort (fun a b => a ≤ b)

/-- **The template that a text is.** -/
def read (text : List Char) : Except TemplateFault Template :=
  match piecesFrom 0 text with
  | .error fault => .error fault
  | .ok t =>
    match t.repeated with
    | [] => .ok t
    | names => .error (.repeatedNames names (String.ofList text))

/-! ## Matching -/

/-- **What the names stand for in a path that fits.**  A line break at the end of the path does not
count. -/
def match? : Template → List Char → Option (List (String × List Char))
  | [], cs => if cs = [] ∨ cs = ['\n'] then some [] else none
  | .letter _ :: _, [] => none
  | .letter c :: t, d :: cs => if c = d then match? t cs else none
  | .parameter name kind :: t, cs =>
    (kind.lengths cs).findSome? fun n => (match? t (cs.drop n)).map ((name, cs.take n) :: ·)

/-- **A template without names fits itself.** -/
theorem match?_letters (cs : List Char) : match? (cs.map .letter) cs = some [] := by
  induction cs with
  | nil => rfl
  | cons c cs ih => simpa [match?] using ih

/-! ## Names in braces -/

/-- A template in writing, without what its names stand for. -/
def plainText (t : Template) : List Char :=
  t.flatMap fun
    | .letter c => [c]
    | .parameter name _ => '\x7b' :: name.toList ++ ['\x7d']

/-- The texts between an opening brace and the first closing one after it on the same line, in a
text that follows after `skip` characters. -/
def bracedFrom (skip : Nat) : List Char → List String
  | [] => []
  | c :: cs =>
    if skip ≠ 0 then bracedFrom (skip - 1) cs
    else
      let inner := cs.takeWhile fun c => c ≠ '\x7d' ∧ c ≠ '\n'
      if c = '\x7b' ∧ (cs.drop inner.length).head? = some '\x7d' then
        String.ofList inner :: bracedFrom (inner.length + 1) cs
      else bracedFrom 0 cs

/-- **What stands in braces in a template.** -/
def braced (t : Template) : List String := bracedFrom 0 t.plainText

end Template

end Gazetteer.Http
