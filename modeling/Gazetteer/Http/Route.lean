import Gazetteer.Http.Template

/-!
# Routes

A route is a method, a template of paths and what is to be done.  The first route of both the method
and the path of a request is taken; if only the path fits, the method is refused; and if the path
would fit with one slash more or less at its end, the client is sent there.

* `dispatch`: what becomes of a request.
-/

namespace Gazetteer.Http

/-- What is to be done. -/
inductive Endpoint where
  | search
  | continents
  | country
  | create
  | update
  | delete
  | welcome
  deriving DecidableEq, Repr

/-- A route. -/
structure Route where
  method : String
  template : Template
  endpoint : Endpoint
  deriving DecidableEq, Repr

namespace Route

/-- The name of the parameter that is the number of a country. -/
def idName : String := "country_id"

/-- **The routes of a site** whose countries are below a path, in writing. -/
def all (base : List Char) : List (String × List Char × Endpoint) :=
  let below := base ++ "/\x7b".toList ++ idName.toList ++ "\x7d".toList
  [("GET", base ++ "/search".toList, .search),
    ("GET", base ++ "/continents".toList, .continents),
    ("GET", below, .country),
    ("POST", base, .create),
    ("PUT", below, .update),
    ("DELETE", below, .delete),
    ("GET", ['/'], .welcome)]

/-- **What a path has in place of the number of a country**, if it fits a route. -/
def segment? (r : Route) (path : List Char) : Option (List Char) :=
  (r.template.match? path).map fun found => (found.lookup idName).getD []

end Route

/-- **What becomes of a request.** -/
inductive Dispatch where
  | to (endpoint : Endpoint) (segment : List Char)
  | methodNotAllowed (allowed : String)
  | elsewhere (path : List Char)
  | nowhere
  deriving DecidableEq, Repr

/-- A path with the slashes at its end taken away, or with one put there. -/
def otherSlash (path : List Char) : List Char :=
  if path.getLast? = some '/' then (path.reverse.dropWhile (· = '/')).reverse else path ++ ['/']

/-- Whether a path fits a route. -/
def isKnown (rs : List Route) (path : List Char) : Bool :=
  rs.any fun r => (r.segment? path).isSome

/-- **What becomes of a request** for a method and a path. -/
def dispatch (rs : List Route) (method : String) (path : List Char) : Dispatch :=
  let full := rs.findSome? fun r =>
    if r.method = method then (r.segment? path).map (Dispatch.to r.endpoint) else none
  let partly := rs.findSome? fun r =>
    (r.segment? path).map fun _ => Dispatch.methodNotAllowed r.method
  match full, partly with
  | some d, _ => d
  | none, some d => d
  | none, none =>
    if path ≠ ['/'] ∧ isKnown rs (otherSlash path) then .elsewhere (otherSlash path) else .nowhere

end Gazetteer.Http
