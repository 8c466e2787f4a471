import Gazetteer.Text.Blank
import Gazetteer.Url.Host

/-!
# Reading addresses

A text is read as an absolute address the way a browser reads it: controls and spaces at its ends
and line breaks within it are dropped, backslashes count as slashes, and any number of slashes may
stand before the host.

* `Address.read`: the address that a text denotes, or why it denotes none;
* `Address.foreignFault?`, `Address.fileFault?`: why a text of another scheme denotes none;
* `Address.isWeb`: whether its scheme is one of the web.
-/

namespace Gazetteer.Address

open Number Text

/-- A character that is dropped wherever it stands. -/
def isIgnored (c : Char) : Bool := c = '\t' || c = '\n' || c = '\r'

/-- The scheme at the front of a text in lower case, and what follows its colon. -/
def scheme? (cs : List Char) : Option (String × List Char) :=
  let name := cs.takeWhile fun c => c.isAlphanum || c = '+' || c = '-' || c = '.'
  match name, cs.drop name.length with
  | c :: _, ':' :: rest =>
    if c.isAlpha then some (String.ofList (name.map Char.toLower), rest) else none
  | _, _ => none

/-- The schemes whose addresses have a host and a path of segments, and their usual ports. -/
def usualPorts : List (String × String) :=
  [("http", "80"), ("https", "443"), ("ws", "80"), ("wss", "443"), ("ftp", "21")]

def isSlash (c : Char) : Bool := c = '/' || c = '\\'

/-- A character that ends the part before the path. -/
def endsAuthority (c : Char) : Bool := isSlash c || c = '?' || c = '#'

/-- A character that is not escaped in a name or password. -/
def keptInUser (c : Char) : Bool :=
  0x20 < c.toNat && c.toNat < 0x7F && !"\"#<>?`\x7b\x7d/:;=@[\\]^|".toList.contains c

/-- A character that is not escaped in a path. -/
def keptInPath (c : Char) : Bool :=
  0x20 < c.toNat && c.toNat < 0x7F && !"\"#<>?`\x7b\x7d".toList.contains c

/-- A character that is not escaped in a query. -/
def keptInQuery (c : Char) : Bool :=
  0x20 < c.toNat && c.toNat < 0x7F && !"\"#<>'".toList.contains c

/-- A character that is not escaped in a fragment. -/
def keptInFragment (c : Char) : Bool :=
  0x20 < c.toNat && c.toNat < 0x7F && !"\"<>`".toList.contains c

def escaped (keep : Char → Bool) (cs : List Char) : String := String.ofList (Percent.escape keep cs)

/-- The text before the last sign that ends a name and password, and the text after it. -/
def cutAtLast (sign : Char) (cs : List Char) : Option (List Char × List Char) :=
  if cs.contains sign then
    let after := (cs.reverse.takeWhile (· ≠ sign)).reverse
    some (cs.take (cs.length - after.length - 1), after)
  else none

/-- A name and password in writing, with the sign that ends them. -/
def userText (cs : List Char) : String :=
  let (name, password) := cutAt ':' cs
  let password := match password with
    | some (c :: rest) => ":" ++ escaped keptInUser (c :: rest)
    | _ => ""
  let name := escaped keptInUser name
  if name = "" ∧ password = "" then "" else name ++ password ++ "@"

/-- The text before the colon of a port, which does not stand in brackets, and the text after
it. -/
def cutAtPort (inBrackets : Bool) : List Char → List Char × Option (List Char)
  | [] => ([], none)
  | c :: cs =>
    if c = ':' ∧ !inBrackets then ([], some cs)
    else
      let inBrackets := if c = '[' then true else if c = ']' then false else inBrackets
      match cutAtPort inBrackets cs with
      | (before, after) => (c :: before, after)

/-- A port in writing, unless it is the usual one or left empty. -/
def portText? (usual : String) : Option (List Char) → Except AddressFault (Option String)
  | none | some [] => .ok none
  | some digits =>
    if !digits.all Char.isDigit || 65535 < digitsValue digits then .error .port
    else
      let port := natText (digitsValue digits)
      .ok (if port = usual then none else some port)

/-- Whether a segment stands for the segment above. -/
def isDoubleDot (s : String) : Bool :=
  ["..", "%2e%2e", ".%2e", "%2e."].contains (String.ofList (s.toList.map Char.toLower))

/-- Whether a segment stands for itself. -/
def isSingleDot (s : String) : Bool :=
  [".", "%2e"].contains (String.ofList (s.toList.map Char.toLower))

/-- Whether characters name a drive: a letter with a colon or a bar behind it. -/
def isDrive : List Char → Bool
  | [letter, sign] => letter.isAlpha && (sign = ':' || sign = '|')
  | _ => false

/-- The segments above some segments.  Nothing is above a drive. -/
def above (before : List String) : List String :=
  if before.getLast?.any fun s => isDrive s.toList then before else before.dropLast

/-- The segments of a path without the ones that are dots. -/
def withoutDots (before : List String) : List String → List String
  | [] => before
  | [s] =>
    if isDoubleDot s then above before ++ [""]
    else if isSingleDot s then before ++ [""]
    else before ++ [s]
  | s :: t :: rest =>
    if isDoubleDot s then withoutDots (above before) (t :: rest)
    else if isSingleDot s then withoutDots before (t :: rest)
    else withoutDots (before ++ [s]) (t :: rest)

/-- The segments of a path. -/
def segments (cs : List Char) : List String :=
  let cs := cs.map fun c => if c = '\\' then '/' else c
  let cs := match cs with
    | '/' :: rest => rest
    | cs => cs
  withoutDots [] ((splitAt '/' cs).map (escaped keptInPath))

/-- The address after its scheme and the slashes that follow it. -/
def authority (scheme usualPort : String) (cs : List Char) : Except AddressFault Address := do
  let part := cs.takeWhile fun c => !endsAuthority c
  let rest := cs.drop part.length
  let (user, hostAndPort) := match cutAtLast '@' part with
    | some (user, after) => (userText user, after)
    | none => ("", part)
  let (host, port) := cutAtPort false hostAndPort
  let host ← Host.normalize host
  let port ← portText? usualPort port
  let (beforeFragment, fragment) := cutAt '#' rest
  let (path, query) := cutAt '?' beforeFragment
  .ok { scheme, user, host, port
        path := segments path
        query := query.map (escaped keptInQuery)
        fragment := fragment.map (escaped keptInFragment) }

/-! ## Other schemes -/

/-- A character that ends the part before the path in an address of another kind. -/
def endsForeignAuthority (c : Char) : Bool := c = '/' || c = '?' || c = '#'

/-- Why what follows the host of an address of another kind is no port. -/
def foreignPortFault? (cs : List Char) : Option AddressFault :=
  let digits := cs.takeWhile Char.isDigit
  let isOver := match cs.drop digits.length with
    | [] => true
    | c :: _ => endsAuthority c
  if isOver && digitsValue digits ≤ 65535 then none else some .port

/-- Why a host of another kind, with a port or without, is none. -/
def foreignHostFault? (cs : List Char) : Option AddressFault :=
  match cutAtPort false cs with
  | ([], some _) => some .emptyHost
  | (host, port) =>
    match Host.check host with
    | .error fault => some fault
    | .ok () => port.bind foreignPortFault?

/-- **Why an address of another kind is none**, given what follows its scheme.  Only one with two
slashes has a host.  It must not be empty behind a name or a password, nor between the sign that
ends them and the path. -/
def foreignFault? : List Char → Option AddressFault
  | '/' :: '/' :: cs =>
    let part := cs.takeWhile (!endsForeignAuthority ·)
    match cutAtLast '@' part with
    | none => foreignHostFault? part
    | some (user, after) =>
      let needsHost := userText user ≠ "" || (user.isEmpty && part.length < cs.length)
      if after.isEmpty && needsHost then some .emptyHost else foreignHostFault? after
  | _ => none

/-- **Why the address of a file is none**, given what follows its scheme.  A drive is no host. -/
def fileFault? : List Char → Option AddressFault
  | a :: b :: cs =>
    let host := cs.takeWhile (!endsAuthority ·)
    if !isSlash a || !isSlash b || host.isEmpty || isDrive host then none
    else match Host.normalize host with
      | .ok _ => none
      | .error fault => some fault
  | _ => none

/-! ## All schemes -/

/-- An address that is of no further interest than its scheme. -/
def foreign (scheme : String) (fault : Option AddressFault) : Except AddressFault Address :=
  match fault with
  | some fault => .error fault
  | none => .ok ⟨scheme, "", "", none, [], none, none⟩

/-- **The address that a text denotes.**  Of an address of another kind than the web's only the
scheme is kept. -/
def read (s : String) : Except AddressFault Address :=
  if s = "" then .error .empty
  else
    let cs := (trimBy (fun c => c.toNat ≤ 0x20) s.toList).filter (!isIgnored ·)
    match scheme? cs with
    | none => .error .relative
    | some (scheme, rest) =>
      match usualPorts.lookup scheme with
      | some port => authority scheme port (rest.dropWhile isSlash)
      | none => foreign scheme (if scheme = "file" then fileFault? rest else foreignFault? rest)

/-- **An address of the web.** -/
def isWeb (a : Address) : Bool := a.scheme = "http" || a.scheme = "https"

end Gazetteer.Address
