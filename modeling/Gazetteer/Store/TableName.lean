import Gazetteer.Text.Casing

/-!
# Names of tables

* `tableName?`: the table in which the records of a kind are kept, the plural of the kind's name;
* `NameFault`: why a text names no kind.
-/

namespace Gazetteer.Store

open Text

/-- A name in small letters and in the plural. -/
def tableName (kind : String) : String :=
  let name := lower kind
  match name.toList.getLast? with
  | some 's' => name
  | some 'y' => String.ofList (name.toList.dropLast ++ ['i', 'e', 's'])
  | _ => name ++ "s"

/-- Why a text names no kind of record. -/
inductive NameFault where
  | nullCharacter
  deriving DecidableEq, Repr

/-- The wording of a fault. -/
def NameFault.message : NameFault → String
  | .nullCharacter => "type name must not contain null characters"

/-- **The table for a kind of record.**  The null character is in no name. -/
def tableName? (kind : String) : Except NameFault String :=
  if kind.toList.contains '\x00' then .error .nullCharacter else .ok (tableName kind)

end Gazetteer.Store
