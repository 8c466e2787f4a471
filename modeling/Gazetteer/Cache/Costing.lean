import Gazetteer.Cache.Script
import Gazetteer.Json.Display

/-!
# What JSON values cost

* `Costing.fixed`: the same cost for all values;
* `Costing.byLength`: the number of characters, items or fields of a value, if it has any.
-/

namespace Gazetteer.Cache

/-- The same cost for all values. -/
def Costing.fixed (cost : Cost) : Costing α := fun _ => .ok cost

/-- The number of parts of a value. -/
def length? : Json → Option Nat
  | .text s => some s.length
  | .array vs => some vs.length
  | .object fields => some fields.length
  | _ => none

/-- **The length of a value**; a value without parts has none. -/
def Costing.byLength : Costing Json := fun value =>
  match length? (value.getD .null) with
  | some n => .ok (.units n)
  | none => .error (.unmeasurable (value.getD .null).kindName)

end Gazetteer.Cache
