import Gazetteer.Text.Mark

/-!
# Directions of writing

Some scripts run from left to right, others from right to left.  A row of labels that mixes both is
shown without confusion only if every label keeps to some rules: it begins with a letter, which
decides its direction, and holds and ends with what does not turn the direction around.

* `direction`: the class of a character.  The table knows the characters that a domain may hold
  (`Url/Mapping`); what it says of other characters does not matter;
* `keepsDirection`: the rules for a label;
* `directionsFit`: the rules for a row of labels.
-/

namespace Gazetteer.Text

/-- **What a character does to the direction of writing.** -/
inductive Direction where
  | leftToRight
  | rightToLeft
  /-- A letter of a script that runs from right to left and has numbers of its own. -/
  | arabicLetter
  | arabicNumber
  | europeanNumber
  /-- A sign that stands between digits, such as a plus. -/
  | separator
  /-- A sign that stands before or after digits, such as a currency. -/
  | terminator
  /-- A sign that stands between digits, such as a point. -/
  | commonSeparator
  | nonspacing
  /-- A character that is not shown. -/
  | boundary
  | neutral
  deriving DecidableEq, Repr

/-- The characters other than marks that are not written from left to right, by their class. -/
def directionRows : List (Direction × List String) :=
  [ (.rightToLeft, ["5BE 5C0 5C3 5C6 5D0-5F4 7C0-7EA 7F4-7F5 7FA 7FE-815 81A 824 828 830-858 85E",
      "10800-1091B 10920-10A00 10A10-10A35 10A40-10AE4 10AEB-10B35 10B40-10CFF 10D40-10D8F",
      "10E80-10EA9 10EAD-10EB1 10F00-10F27 10F70-10F81 10F86-10FF6 1E800-1E8CF 1E922-1E943",
      "1E94B-1E95F"]),
    (.arabicLetter, ["608 60B 60D 61B-64A 66D-66F 671-6D5 6E5-6E6 6EE-6EF 6FA-710 712-72F 74D-7A5",
      "7B1 860-897 8A0-8C9 FBB2-FBD2 FD90-FDCE FE73 10D00-10D23 10EC2-10EFC 10F30-10F45",
      "10F51-10F59 1EC71-1ED3D"]),
    (.arabicNumber, ["660-669 66B-66C 10D30-10D39 10E60-10E7E"]),
    (.europeanNumber, ["30-39 6F0-6F9 102E1-102FB"]),
    (.separator, ["2B 2D 2212"]),
    (.terminator, ["23-25 A2-A5 B0-B1 58F 609-60A 66A 9F2-9F3 9FB AF1 BF9 E3F 17DB 2030-2032 20A0",
      "20A1-20C1 212E 2213 A838-A839 11FDD-11FE0 1E2FF"]),
    (.commonSeparator, ["2C 2E-2F 3A 60C 2044"]),
    (.neutral, ["21-22 26-2A 3B-60 7B-7E A1 A6-AE B6-D7 F7 2B9-2BA 2C2-2CF 2D2-2ED 2EF-2FF 375 3F6",
      "58A-58E 606-607 60E-60F 6DE 6E9 7F6-7F9 BF3-BF8 BFA C78-C7E F3A-F3D 1390-1399 1400",
      "169B-169C 17F0-180A 1940-1945 19DE-19FF 2010-2027 2035-2043 2045-205E 2104-2129",
      "213A-214D 218A-2211 2214-2335 237B-2394 2396-2426 2440-26AB 26AD-27FF 2900-2B95",
      "2B97-2BFF 2CE5-2CEA 2CF9-2CFF 2E00-3004 3008-3020 3030 3037 303D-303F 30A0 30FB",
      "31C0-31E3 4DC0-4DFF A490-A4C6 A60D-A60F A673 A67E-A67F A700-A721 A788 A828-A82B",
      "A874-A877 AB6A-AB6B FD3E-FD4F FDCF-FDFF FE45-FE46 10101 10140-1018C 10190-101A0",
      "1091F 10B39-10B3F 11052-11065 11660-1166C 11FD5-11FDC 11FE1-11FF1 16FE2 1D1E9-1D241",
      "1D245 1D300-1D356 1EEF0-1F12F 1F16D-1F16F 1F1AD 1F260-1F6D7 1F6DC-1F776 1F77B-1F8B1",
      "1F900-1FA53 1FA60-1FA88 1FA90-1FABD 1FABF-1FAC5 1FACE-1FADB 1FAE0-1FAE8 1FAF0-1FBCA"]),
    (.boundary, ["200C-200D"]) ]

/-- Marks that take no room of their own and are written from left to right all the same. -/
def leftToRightMarkRows : List String := ["CBF CC6 11A07-11A08 11C3F"]

def directionSpans : List (Direction × List (Nat × Nat)) :=
  directionRows.map fun (d, rows) => (d, CodeTable.spans rows)

def leftToRightMarkSpans : List (Nat × Nat) := CodeTable.spans leftToRightMarkRows

/-- **The class of a character.** -/
def direction (c : Char) : Direction :=
  if isNonspacing c && !inSpans leftToRightMarkSpans c then .nonspacing
  else ((directionSpans.find? fun (_, spans) => inSpans spans c).map (·.1)).getD .leftToRight

namespace Direction

/-- Whether a character of the class makes the rules apply. -/
def turns (d : Direction) : Bool := d matches .rightToLeft | .arabicLetter | .arabicNumber

/-- Whether a label may begin with a character of the class. -/
def mayBegin (d : Direction) : Bool := d matches .leftToRight | .rightToLeft | .arabicLetter

/-- Whether a label may end with a character of the class, by the direction of the label. -/
def mayEnd (leftward : Bool) : Direction → Bool
  | .europeanNumber => true
  | .leftToRight => !leftward
  | .rightToLeft | .arabicLetter | .arabicNumber => leftward
  | _ => false

/-- Whether a label may hold a character of the class, by the direction of the label. -/
def mayHold (leftward : Bool) : Direction → Bool
  | .leftToRight => !leftward
  | .rightToLeft | .arabicLetter | .arabicNumber => leftward
  | _ => true

end Direction

/-- **Whether a label keeps its direction**: its classes are allowed, the marks at its end do not
count for what it ends with, and the two kinds of numbers do not meet in a label that runs from
right to left. -/
def keepsDirection (label : List Direction) : Bool :=
  match label with
  | [] => true
  | first :: rest =>
    let leftward := first ≠ .leftToRight
    let rest := (rest.reverse.dropWhile (· = .nonspacing)).reverse
    first.mayBegin
      && rest.getLast?.all (Direction.mayEnd leftward)
      && rest.all (Direction.mayHold leftward)
      && !(leftward && rest.contains .europeanNumber && rest.contains .arabicNumber)

/-- A character that makes the rules apply. -/
def turnsDirection (c : Char) : Bool := 0x590 ≤ c.toNat && (direction c).turns

/-- **Whether the directions of a row of labels fit**: the rules apply only if something turns the
direction. -/
def directionsFit (labels : List (List Char)) : Bool :=
  !(labels.any fun label => label.any turnsDirection)
    || labels.all fun label => keepsDirection (label.map direction)

end Gazetteer.Text
