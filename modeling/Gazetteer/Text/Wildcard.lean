/-!
# Patterns with wildcards

A pattern has to cover a whole text.  In it `%` stands for any characters, however many, `_` for any
one, and `/` takes its special meaning from the character that follows; every other character stands
for itself, a letter of ASCII also for its counterpart in the other case.  The two noncharacters at
the end of the basic plane are read as the replacement character.  Patterns and texts end at their
first NUL.

To find a text within another one, it is put between two `%`, with a `/` before each of its special
characters.

* `covers`: the texts that a pattern covers;
* `escape`, `around`: the pattern that finds a text;
* `finds`: whether a text is found in another one.
-/

namespace Gazetteer.Text.Wildcard

/-! ## Covering a text -/

/-- Whether one of the ends of a list has a property; the whole list and the empty one are among
them. -/
def anyEnd (p : List α → Bool) : List α → Bool
  | [] => p []
  | c :: cs => p (c :: cs) || anyEnd p cs

/-- Whether the first element of a list has a property, and what comes after it another one. -/
def headAnd (p : α → Bool) (q : List α → Bool) : List α → Bool
  | [] => false
  | c :: cs => p c && q cs

/-- What a character is compared as: a capital letter of ASCII as the small one, and `U+FFFE` and
`U+FFFF` as `U+FFFD`. -/
def fold (c : Char) : Char := if c = '\uFFFE' ∨ c = '\uFFFF' then '\uFFFD' else c.toLower

/-- Whether two characters are compared as the same. -/
def alike (c d : Char) : Bool := fold c = fold d

/-- **Whether a pattern covers a text.**  A `/` at the end of a pattern covers nothing. -/
def covers : List Char → List Char → Bool
  | [] => List.isEmpty
  | '%' :: ps => anyEnd (covers ps)
  | '_' :: ps => headAnd (fun _ => true) (covers ps)
  | ['/'] => fun _ => false
  | '/' :: c :: ps => headAnd (alike c) (covers ps)
  | c :: ps => headAnd (alike c) (covers ps)

/-- What comes before the first NUL. -/
def upToNul (cs : List Char) : List Char := cs.takeWhile (· ≠ '\x00')

/-- Whether a pattern covers a text, each of them up to its first NUL. -/
def like (pattern text : List Char) : Bool := covers (upToNul pattern) (upToNul text)

/-! ## Finding a text -/

/-- Whether a character has a special meaning in a pattern. -/
def isSpecial (c : Char) : Bool := c = '%' || c = '_' || c = '/'

/-- A character in a pattern that is to stand for itself. -/
def escapeChar (c : Char) : List Char := if isSpecial c then ['/', c] else [c]

/-- A text in a pattern that is to stand for itself. -/
def escape (cs : List Char) : List Char := cs.flatMap escapeChar

/-- The pattern for all texts in which a text stands somewhere. -/
def around (part : List Char) : List Char := '%' :: escape part ++ ['%']

/-- **Whether a text is found in another one.** -/
def finds (part whole : List Char) : Bool := like (around part) whole

end Gazetteer.Text.Wildcard
