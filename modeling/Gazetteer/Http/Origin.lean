import Gazetteer.Http.Request
import Gazetteer.Http.Response

/-!
# Requests from other sites

A browser tells from which site the page came that makes a request.  Such a request is answered in
any case, but the page gets to see the answer only if its origin is one of the allowed ones; and
before other requests than the simplest, the browser asks first.

* `Origins.preflight?`: the answer to a browser that asks first;
* `Origins.mark`: an answer that the page may see.
-/

namespace Gazetteer.Http.Origins

/-- The methods that pages of other sites may use. -/
def methods : List String := ["DELETE", "GET", "HEAD", "OPTIONS", "PATCH", "POST", "PUT", "QUERY"]

/-- The origin of a request, if it is an allowed one. -/
def allowed? (origins : List String) (r : Request) : Option String :=
  (r.header? "origin").filter origins.contains

/-- Whether a page asks for a site on a private network, which it is never granted. -/
def isPrivate (r : Request) : Bool := (r.header? "access-control-request-private-network").isSome

/-- The parts of a question that cannot be granted. -/
def refusals (origins : List String) (r : Request) (method : String) : List String :=
  (if (allowed? origins r).isSome then [] else ["origin"])
    ++ (if methods.contains method then [] else ["method"])
    ++ (if isPrivate r then ["private-network"] else [])

/-- The answer to a browser that asks for a method. -/
def preflight (origins : List String) (r : Request) (method : String) : Response :=
  match refusals origins r method with
  | [] => { status := 200, content := .text "OK", allowedOrigin := allowed? origins r }
  | parts =>
    { status := 400, content := .text ("Disallowed CORS " ++ String.intercalate ", " parts)
      allowedOrigin := allowed? origins r }

/-- **The answer to a browser that asks first**, if the request is such a question. -/
def preflight? (origins : List String) (r : Request) : Option Response :=
  if origins.isEmpty ∨ r.verb ≠ "OPTIONS" ∨ (r.header? "origin").isNone then none
  else (r.header? "access-control-request-method").map (preflight origins r)

/-- **An answer that the page may see**, if its origin is allowed. -/
def mark (origins : List String) (r : Request) (response : Response) : Response :=
  { response with allowedOrigin := allowed? origins r }

end Gazetteer.Http.Origins
