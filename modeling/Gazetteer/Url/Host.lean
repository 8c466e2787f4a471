import Gazetteer.Number.Numeral
import Gazetteer.Text.Percent
import Gazetteer.Url.Basic
import Gazetteer.Url.Domain

/-!
# Hosts

The host of an address is a domain name, an address of four numbers, or an address of sixteen octets
in brackets.  Each is brought into one written form.

* `Host.normalize`: the written form of a host of the web, or why it is none;
* `Host.check`: why a host of another kind is none;
* `Host.fourNumbers?`, `Host.sixteenOctets?`: the two numeric forms.
-/

namespace Gazetteer.Host

open Number Text

/-- The number that a part of a numeric address denotes, in octal after `0` and in hexadecimal
after `0x`. -/
def partNumber? (cs : List Char) : Option Nat :=
  match cs with
  | [] => none
  | '0' :: 'x' :: digits | '0' :: 'X' :: digits =>
    hexValues? digits
  | '0' :: d :: digits =>
    if (d :: digits).all fun c => '0' ≤ c && c ≤ '7' then
      some ((d :: digits).foldl (fun n c => 8 * n + digitValue c) 0)
    else none
  | digits => if digits.all Char.isDigit then some (digitsValue digits) else none

/-- The parts of a dotted name, without an empty one at the end. -/
def dottedParts (cs : List Char) : List (List Char) :=
  let parts := splitAt '.' cs
  if 1 < parts.length && parts.getLast? = some [] then parts.dropLast else parts

/-- Whether a dotted name is an address of numbers: its last part is one. -/
def endsInNumber (cs : List Char) : Bool :=
  match (dottedParts cs).getLast? with
  | some last => (!last.isEmpty && last.all Char.isDigit) || (partNumber? last).isSome
  | none => false

/-- The value of an address of at most four numbers, the last of which fills the places left. -/
def fourNumbers? (cs : List Char) : Option Nat := do
  let parts := dottedParts cs
  if 4 < parts.length then none
  let numbers ← parts.mapM partNumber?
  let last ← numbers.getLast?
  let before := numbers.dropLast
  if before.any (255 < ·) ∨ Nat.pow 256 (4 - before.length) ≤ last then none
  some (before.foldl (fun n m => 256 * n + m) 0 * Nat.pow 256 (4 - before.length) + last)

/-- Four numbers with points between them. -/
def fourNumbersText (n : Nat) : String :=
  String.intercalate "." ([n / 16777216, n / 65536 % 256, n / 256 % 256, n % 256].map natText)

/-- One group of an address of sixteen octets: at most four hexadecimal digits. -/
def group? (cs : List Char) : Option Nat :=
  if cs.isEmpty || 4 < cs.length then none else hexValues? cs

/-- One number of four at the end of an address of sixteen octets: no leading zero. -/
def octet? (cs : List Char) : Option Nat :=
  match cs with
  | [] => none
  | '0' :: _ :: _ => none
  | digits => if digits.all Char.isDigit && digitsValue digits ≤ 255 then some (digitsValue digits)
      else none

/-- The groups of one side of an address, the last of which may be four numbers. -/
def groups? (cs : List Char) : Option (List Nat) :=
  if cs.isEmpty then some []
  else
    let parts := splitAt ':' cs
    match parts.getLast? with
    | some last =>
      if last.contains '.' then do
        let before ← parts.dropLast.mapM group?
        match ← (splitAt '.' last).mapM octet? with
        | [a, b, c, d] => some (before ++ [256 * a + b, 256 * c + d])
        | _ => none
      else parts.mapM group?
    | none => none

/-- The text before the first double colon, and the text after it if there is one. -/
def cutAtGap : List Char → List Char × Option (List Char)
  | ':' :: ':' :: rest => ([], some rest)
  | c :: rest => match cutAtGap rest with
    | (before, after) => (c :: before, after)
  | [] => ([], none)

/-- The eight groups of an address of sixteen octets. -/
def sixteenOctets? (cs : List Char) : Option (List Nat) := do
  match cutAtGap cs with
  | (whole, none) =>
    let groups ← groups? whole
    if groups.length = 8 then some groups else none
  | (before, some after) =>
    let front ← groups? before
    let back ← groups? after
    if before.contains '.' ∨ 7 < front.length + back.length then none
    else some (front ++ List.replicate (8 - front.length - back.length) 0 ++ back)

/-- The length of the run of zeros at the front. -/
def zeroRun (groups : List Nat) : Nat := (groups.takeWhile (· = 0)).length

/-- The start and the length of the first longest run of zeros. -/
def longestRun (groups : List Nat) : Nat × Nat :=
  (List.range groups.length).foldl (fun best i =>
    let n := zeroRun (groups.drop i)
    if best.2 < n then (i, n) else best) (0, 0)

/-- An address of sixteen octets in brackets; its longest run of at least two zeros is left
out. -/
def sixteenOctetsText (groups : List Nat) : String :=
  let join (gs : List Nat) := String.intercalate ":" (gs.map fun g => String.ofList (hex g))
  let (start, length) := longestRun groups
  if length < 2 then "[" ++ join groups ++ "]"
  else "[" ++ join (groups.take start) ++ "::" ++ join (groups.drop (start + length)) ++ "]"

/-- Checks what begins with a bracket. -/
def bracketed (cs : List Char) : Except AddressFault (List Nat) :=
  if cs.getLast? ≠ some ']' then .error .sixteenOctets
  else match sixteenOctets? cs.dropLast with
    | some groups => .ok groups
    | none => .error .sixteenOctets

/-- **The written form of a host.** -/
def normalize (host : List Char) : Except AddressFault String :=
  match host with
  | [] => .error .emptyHost
  | '[' :: rest => (bracketed rest).map sixteenOctetsText
  | host =>
    match Domain.toAscii? (Percent.unescape host) with
    | none => .error .domain
    | some [] => .error .emptyHost
    | some domain =>
      if endsInNumber domain then
        match fourNumbers? domain with
        | some n => .ok (fourNumbersText n)
        | none => .error .fourNumbers
      else .ok (String.ofList domain)

/-- A character that stands in no host, of whatever kind. -/
def isForbidden (c : Char) : Bool := "\x00\t\n\r #/:<>?@[\\]^|".toList.contains c

/-- **Why a host is none, of whatever kind.**  It may be empty, and it may stand for anything. -/
def check : List Char → Except AddressFault Unit
  | '[' :: rest => (bracketed rest).map fun _ => ()
  | host => if host.any isForbidden then .error .character else .ok ()

end Gazetteer.Host
