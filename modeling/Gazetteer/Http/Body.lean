import Gazetteer.Http.Request
import Gazetteer.Http.Response
import Gazetteer.Json.Octets
import Gazetteer.Json.Reader
import Gazetteer.Text.Blank
import Gazetteer.Validation.Checked

/-!
# The value that a request carries

Only a text that is declared to be JSON is read as JSON; any other text is a value as it stands.

* `Body.read`: the value that a request carries, or the answer to a request that carries none that
  can be read.
-/

namespace Gazetteer.Http

open Text Validation

/-- **What a request carries.** -/
inductive Body where
  | nothing
  | value (v : Json)

namespace Body

/-- Whether a declared type is that of JSON. -/
def isJson (type : String) : Bool :=
  let name := (trimBy isBlank (cutAt ';' type.toList).1).map Char.toLower
  match splitAt '/' name with
  | [kind, subkind] =>
    kind = "application".toList &&
      (subkind = "json".toList || "+json".toList.isSuffixOf subkind)
  | _ => false

/-- The depth up to which values within values are followed when they are read.  What could be read
is taken to be followed again when it is told. -/
def greatestDepth : Nat := 965

/-- The answer to octets of which nothing can be said. -/
def unreadable : Response := .detail 400 (.text "There was an error parsing the body")

/-- The answer to a text that is no JSON text.  The place of the fault takes the place of a path; of
values within too many others, and of whole numbers with too many digits, nothing is said. -/
def ofFault (fault : Json.Fault) : Response :=
  match fault.problem with
  | .deepArray | .deepObject | .longInteger .. => unreadable
  | problem => .ofIssues
      [⟨[.field "body", .item fault.offset], .malformed problem.message, .object []⟩]

/-- The value of a JSON text by its octets, if whole numbers are converted up to some digits. -/
def ofOctets (greatestDigits : Option Nat) (octets : List Nat) : Except Response Body :=
  match Json.textOfOctets? octets with
  | none => .error unreadable
  | some text =>
    match Json.readWithin ⟨some greatestDepth, greatestDigits⟩ (String.ofList text) with
    | .ok v => .ok (.value v)
    | .error fault => .error (ofFault fault)

/-- **The value that a request carries.** -/
def read (r : Request) : Except Response Body :=
  if r.text = "" then .ok .nothing
  else if r.contentType.any isJson then
    ofOctets r.greatestDigits (Utf8.encode r.text.toList)
  else .ok (.value (.text r.text))

/-- What a body stands for, which has to be an object. -/
def check (rule : Json → Checked α) : Body → Checked α
  | .nothing => (Checked.refuse .missing .null).under (.field "body")
  | .value v => (rule v).under (.field "body")

end Body

end Gazetteer.Http
