import Gazetteer.Http.Query
import Gazetteer.Json.Writer
import Gazetteer.Number.IntegerText
import Gazetteer.Text.Quoted

/-!
# Requests

* `Request.path`: the path that a request is about, without escapes and dots;
* `Request.queryString`: its query string;
* `Request.header?`: a header, whatever the case of its name;
* `Request.host`: the host that a request is addressed to;
* `Request.fault?`: why a request cannot be made.
-/

namespace Gazetteer.Http

open Number Text

/-- What a request carries. -/
inductive Payload where
  | nothing
  | raw (text : String)
  | json (value : Json)

/-- **A request.** -/
structure Request where
  method : String
  /-- The address within the site, with escapes and perhaps a query string. -/
  address : String
  /-- The pairs of the query string, in place of the one in the address. -/
  query : Option (List (String × String)) := none
  headers : List (String × String) := []
  payload : Payload := .nothing
  /-- Up to how many digits whole numbers are converted where the request is taken, if not all of
  them are.  Interpreters differ in this; those that have a limit have it at 4300 as a rule. -/
  greatestDigits : Option Nat := some greatestLength

namespace Request

/-- A character that a scheme may hold after its first letter. -/
def isSchemePart (c : Char) : Bool := c.isAlphanum || c = '+' || c = '.' || c = '-'

/-- An address without a scheme in front, which does not count, and be it a colon alone. -/
def withoutScheme (cs : List Char) : List Char :=
  match cutAt ':' cs with
  | (scheme, some rest) =>
    if (scheme.head?.all Char.isAlpha) && scheme.all isSchemePart then rest else cs
  | (_, none) => cs

/-- The address up to a fragment. -/
def withoutFragment (r : Request) : List Char := (cutAt '#' (withoutScheme r.address.toList)).1

/-- The path as it is written. -/
def writtenPath (r : Request) : List Char := (cutAt '?' r.withoutFragment).1

/-- The query string as it is written. -/
def writtenQuery (r : Request) : List Char := (cutAt '?' r.withoutFragment).2.getD []

/-- A path with exactly one slash in front.  Two slashes in front name a host, which does not
count. -/
def rooted : List Char → List Char
  | '/' :: '/' :: cs => '/' :: (cs.dropWhile (· ≠ '/')).dropWhile (· = '/')
  | cs => '/' :: cs.dropWhile (· = '/')

/-- The segments before a point without the last one, of which the empty first one stays. -/
def parent (before : List (List Char)) : List (List Char) :=
  if before = [[]] then before else before.dropLast

/-- The segments of a path without those that are dots. -/
def withoutDots (before : List (List Char)) : List (List Char) → List (List Char)
  | [] => before
  | segment :: rest =>
    if segment = ['.'] then withoutDots before rest
    else if segment = ['.', '.'] then withoutDots (parent before) rest
    else withoutDots (before ++ [segment]) rest

/-- **The path that a request is about.**  Escapes are replaced twice, on the way to the site and at
the site. -/
def path (r : Request) : List Char :=
  let written := joinWith '/' (withoutDots [] (splitAt '/' (rooted r.writtenPath)))
  Percent.unescape (Percent.unescape (if written.isEmpty then ['/'] else written))

/-- **The query string of a request**: that of the pairs it is made with, if there are any, and else
the one in its address. -/
def queryString (r : Request) : List Char :=
  match r.query with
  | none => r.writtenQuery
  | some pairs => QueryString.write (QueryString.grouped pairs)

/-- The pairs of the query string. -/
def pairs (r : Request) : List (String × String) := QueryString.read r.queryString

def sameName (a b : String) : Bool := a.toList.map Char.toLower = b.toList.map Char.toLower

/-- **A header**, whatever the case of its name. -/
def header? (r : Request) (name : String) : Option String :=
  (r.headers.find? fun (n, _) => sameName n name).map (·.2)

/-- The declared type of what a request carries. -/
def contentType (r : Request) : Option String :=
  match r.header? "content-type", r.payload with
  | some type, _ => some type
  | none, .json _ => some "application/json"
  | none, _ => none

/-- What a request carries, as a text. -/
def text (r : Request) : String :=
  match r.payload with
  | .nothing => ""
  | .raw text => text
  | .json value => value.render

/-! ## The host -/

/-- The host of a request that names none. -/
def ownHost : String := "testserver"

/-- A character that the name of a host may hold. -/
def isHostPart (c : Char) : Bool := Percent.isUnreserved c || "!$&'()*+,;=%".toList.contains c

/-- A character that an address in brackets may hold. -/
def isBracketedPart (c : Char) : Bool := (hexValue? c).isSome || c = ':' || c = '.'

/-- Whether nothing or the number of a port follows a host. -/
def isPort : List Char → Bool
  | [] => true
  | ':' :: digits => digits.all Char.isDigit
  | _ => false

/-- Whether a text names a host, and perhaps a port. -/
def isHost : List Char → Bool
  | '[' :: cs =>
    match cutAt ']' cs with
    | (inner, some after) => !inner.isEmpty && inner.all isBracketedPart && isPort after
    | (_, none) => false
  | cs =>
    let name := cs.takeWhile isHostPart
    !name.isEmpty && isPort (cs.drop name.length)

/-- **The host that a request is addressed to.**  What names no host does not count. -/
def host (r : Request) : String :=
  ((r.header? "host").filter fun s => isHost s.toList).getD ownHost

/-- The name of the method in capitals. -/
def verb (r : Request) : String := String.ofList (r.method.toList.map Char.toUpper)

end Request

/-! ## Requests that cannot be made -/

/-- Why a request cannot be made. -/
inductive RequestFault where
  | longAddress
  | controlInAddress (c : Char) (place : Nat)
  /-- A header with a row of characters outside ASCII, the first one and where they stand. -/
  | headerOutsideAscii (c : Char) (first last : Nat)
  /-- A number that is not finite. -/
  | numberWithoutText
  deriving DecidableEq, Repr

/-- The code of a character with a backslash in front. -/
def codeText (c : Char) : String :=
  let n := c.toNat
  let (letter, width) := if n < 0x100 then ('x', 2) else if n < 0x10000 then ('u', 4) else ('U', 8)
  String.ofList ('\\' :: letter :: hexPadded width n)

/-- The wording of a fault. -/
def RequestFault.message : RequestFault → String
  | .longAddress => "URL too long"
  | .controlInAddress c place => "Invalid non-printable ASCII character in URL, "
      ++ quoted (String.singleton c) ++ " at position " ++ natText place ++ "."
  | .headerOutsideAscii c first last =>
    (if first = last then "'ascii' codec can't encode character '" ++ codeText c
        ++ "' in position " ++ natText first
      else "'ascii' codec can't encode characters in position " ++ natText first ++ "-"
        ++ natText last)
      ++ ": ordinal not in range(128)"
  | .numberWithoutText => "Out of range float values are not JSON compliant"

namespace Request

/-- A control of ASCII. -/
def isControl (c : Char) : Bool := c.toNat < 0x20 || c.toNat = 0x7F

/-- Why an address cannot be written. -/
def addressFault? (address : List Char) : Option RequestFault :=
  if 65536 < address.length then some .longAddress
  else (address.find? isControl).map fun c => .controlInAddress c (address.idxOf c)

/-- Why a name or value of a header cannot be written. -/
def headerFault? (s : String) : Option RequestFault :=
  let isOutside (c : Char) : Bool := 128 ≤ c.toNat
  let before := s.toList.takeWhile (!isOutside ·)
  match s.toList.drop before.length with
  | [] => none
  | c :: cs =>
    some (.headerOutsideAscii c before.length (before.length + (cs.takeWhile isOutside).length))

/-- Why what a request carries cannot be written. -/
def payloadFault? : Payload → Option RequestFault
  | .json v => if v.isWhole then none else some .numberWithoutText
  | .raw _ | .nothing => none

/-- **Why a request cannot be made.** -/
def fault? (r : Request) : Option RequestFault :=
  (addressFault? r.address.toList).orElse fun () =>
    ((r.headers.flatMap fun (name, value) => [name, value]).findSome? headerFault?).orElse fun () =>
      payloadFault? r.payload

end Request

end Gazetteer.Http
