import Gazetteer.Text.Percent
import Gazetteer.Text.Split

/-!
# Query strings

A query string is a row of `name=value` pairs with ampersands between them.  In a name and a value a
plus sign stands for a space, and other characters may be escaped.

* `QueryString.read`: the pairs of a query string;
* `QueryString.write`: a query string for pairs;
* `QueryString.last?`: the value that counts, the last one of a name.
-/

namespace Gazetteer.Http.QueryString

open Text

/-- A name or value with its escapes replaced. -/
def decodePart (cs : List Char) : String :=
  String.ofList (Percent.unescape (cs.map fun c => if c = '+' then ' ' else c))

/-- A pair; a name alone has the empty value. -/
def readPair (cs : List Char) : String × String :=
  match cutAt '=' cs with
  | (name, value) => (decodePart name, decodePart (value.getD []))

/-- **The pairs of a query string.** -/
def read (cs : List Char) : List (String × String) :=
  ((splitAt '&' cs).filter (!·.isEmpty)).map readPair

/-- A name or value in a query string. -/
def encodePart (s : String) : List Char :=
  s.toList.flatMap fun c => if c = ' ' then ['+'] else Percent.escapeChar Percent.isUnreserved c

/-- **A query string for pairs.** -/
def write (pairs : List (String × String)) : List Char :=
  joinWith '&' (pairs.map fun (name, value) => encodePart name ++ '=' :: encodePart value)

/-- Pairs with the ones of equal name side by side. -/
def grouped (pairs : List (String × String)) : List (String × String) :=
  (pairs.map (·.1)).eraseDups.flatMap fun name => pairs.filter (·.1 = name)

/-- **The last value of a name.** -/
def last? (name : String) (pairs : List (String × String)) : Option String :=
  pairs.reverse.lookup name

end Gazetteer.Http.QueryString
