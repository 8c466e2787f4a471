import Gazetteer.Json.Basic
import Gazetteer.Text.Percent
import Gazetteer.Validation.Issue

/-!
# Responses

* `Response.ofIssues`: the answer to a request that breaks rules;
* `Response.redirect`: the answer that sends the client elsewhere;
* `Response.internalError`: the answer to everything that was not foreseen.
-/

namespace Gazetteer.Http

open Text Validation

/-- What a response carries. -/
inductive Content where
  | text (s : String)
  | json (v : Json)

/-- **A response.** -/
structure Response where
  status : Nat
  content : Content
  location : Option String := none
  allow : Option String := none
  /-- The origin whose pages may see the response. -/
  allowedOrigin : Option String := none

namespace Response

/-- A successful answer. -/
def ok (v : Json) : Response := { status := 200, content := .json v }

/-- An answer that tells in a value what is wrong. -/
def detail (status : Nat) (v : Json) : Response :=
  { status, content := .json (.object [("detail", v)]) }

def notFound : Response := detail 404 (.text "Not Found")

/-- The answer to a method that the path does not have. -/
def methodNotAllowed (allowed : String) : Response :=
  { detail 405 (.text "Method Not Allowed") with allow := some allowed }

/-- **The answer to everything that was not foreseen.** -/
def internalError : Response := { status := 500, content := .text "Internal server error" }

/-- A character that stands for itself in the address of a redirection. -/
def isKeptInLocation (c : Char) : Bool :=
  Percent.isUnreserved c || ":/%#?=@[]!$&'()*+,;".toList.contains c

/-- A character that stands for itself in the query string of a request. -/
def isKeptInQuery (c : Char) : Bool :=
  Percent.isUnreserved c || "!$&'()*+,;=:/?[]@".toList.contains c

/-- **The answer that sends the client elsewhere.** -/
def redirect (address : List Char) : Response :=
  { status := 307, content := .text ""
    location := some (String.ofList (Percent.escape isKeptInLocation address)) }

/-- **The answer to a request that breaks rules**, with all issues.  A number that is not finite and
a torn text cannot be answered, unless they are in a field that is kept back. -/
def ofIssues (issues : List Issue) : Response :=
  let told := issues.map Issue.encoded
  if told.all (·.input.isWhole) then detail 400 (.array (told.map Issue.json)) else internalError

/-- A response to a request that asks for the headers only. -/
def withoutContent (r : Response) : Response := { r with content := .text "" }

end Response

end Gazetteer.Http
