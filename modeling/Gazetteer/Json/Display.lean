import Gazetteer.Json.Basic
import Gazetteer.Number.Shortest
import Gazetteer.Text.Quoted

/-!
# Values in messages

A message that shows an offending value writes it in a notation of its own: `None`, `True` and
`False` for the three words, texts between quotes, lists between brackets, and the fields of an
object between braces, parts separated by a comma and a space.
-/

namespace Gazetteer.Json

open Number Text

/-- The name of a field, which a torn name takes the place of. -/
def displayName (name : String) : Json → String
  | .misnamed points _ => quotedPoints points
  | _ => quoted name

mutual
/-- **A value as messages show it.** -/
def display : Json → String
  | .null => "None"
  | .bool b => if b then "True" else "False"
  | .int n => intText n
  | .real x => x.text
  | .text s => quoted s
  | .torn points => quotedPoints points
  | .array items => "[" ++ displayItems items ++ "]"
  | .object fields => "\x7b" ++ displayFields fields ++ "\x7d"
  | .misnamed _ v => display v

/-- The items of an array, with a comma and a space between neighbours. -/
def displayItems : List Json → String
  | [] => ""
  | [v] => display v
  | v :: w :: vs => display v ++ ", " ++ displayItems (w :: vs)

/-- The fields of an object, with a comma and a space between neighbours. -/
def displayFields : List (String × Json) → String
  | [] => ""
  | [(n, v)] => displayName n v ++ ": " ++ display v
  | (n, v) :: f :: fields =>
    displayName n v ++ ": " ++ display v ++ ", " ++ displayFields (f :: fields)
end

/-- A value put into a running text: a text as it is, everything else as messages show it. -/
def inline : Json → String
  | .text s => s
  | v => display v

/-- The word for the kind of a value. -/
def kindName : Json → String
  | .null => "NoneType"
  | .bool _ => "bool"
  | .int _ => "int"
  | .real _ => "float"
  | .text _ | .torn _ => "str"
  | .array _ => "list"
  | .object _ => "dict"
  | .misnamed _ v => kindName v

end Gazetteer.Json
