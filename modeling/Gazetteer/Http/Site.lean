import Gazetteer.Http.Body
import Gazetteer.Http.Origin
import Gazetteer.Http.Route
import Gazetteer.Registry.Basic
import Gazetteer.Search.Request

/-!
# The site

A `Site` is a registry of countries on the web.  A request that breaks a rule is answered with 400,
a country that does not exist with 404, and a value that another country has with 409.

* `Site.opened`, `Site.closed`: a site at its beginning and end;
* `Site.handle`, `Site.ask`: the answer to a request and the site after it.
-/

namespace Gazetteer.Http

open Country Number Text Validation

/-- **A registry of countries on the web.** -/
structure Site where
  /-- The path below which the countries are; a single brace if it is torn, as no request has such a
  path. -/
  base : List Char
  routes : List Route
  origins : List String
  /-- Whether there are tables to read and write. -/
  hasTables : Bool
  registry : Registry

/-- Why a site cannot be opened. -/
inductive SiteFault where
  /-- The path of the countries is no template. -/
  | template (fault : TemplateFault)
  /-- The path of the countries ends in a slash. -/
  | trailingSlash
  /-- A parameter of a search is to be in the path as well. -/
  | searchInPath (name : String)
  /-- The draft of a country is to be in the path. -/
  | draftInPath
  deriving DecidableEq, Repr

def SiteFault.message : SiteFault → String
  | .template fault => fault.message
  | .trailingSlash => "A path prefix must not end with '/', as the routes will start with '/'"
  | .searchInPath name => "Cannot use `Query` for path param '" ++ name ++ "'"
  | .draftInPath => "Path params must be of one of the supported types"

namespace Site

/-! ## Beginning and end -/

/-- The fields of a search request that a query string may give. -/
def searchNames : List String :=
  ["name", "continent", "iso2", "iso3", "country_code", "page_number", "page_size", "sort_by",
    "sort_direction"]

/-- The field that holds a draft, by the name that it has in a path. -/
def draftName : String := "data"

/-- Why a route cannot be served. -/
def routeFault? (endpoint : Endpoint) (template : Template) : Option SiteFault :=
  match endpoint with
  | .search => (searchNames.find? template.braced.contains).map .searchInPath
  | .create | .update => if template.braced.contains draftName then some .draftInPath else none
  | _ => none

/-- A route by its method, the text of its template and what is to be done. -/
def route : String × List Char × Endpoint → Except SiteFault Route
  | (method, text, endpoint) =>
    match Template.read text with
    | .error fault => .error (.template fault)
    | .ok template =>
      match routeFault? endpoint template with
      | some fault => .error fault
      | none => .ok ⟨method, template, endpoint⟩

/-- A site the path of whose countries is torn: no request comes to them. -/
def withoutCountries (site : Site) : Site :=
  { site with base := ['\x7b'], routes := site.routes.filter (·.endpoint = .welcome) }

/-- **A site at its beginning**, without countries.  The description of the site, which is below the
same path, is set up before all routes. -/
def opened (s : Settings) : Except SiteFault Site :=
  let base := "/countries".toList ++ s.apiPath.map Char.ofNat
  match Template.read (base ++ "/openapi.json".toList) with
  | .error fault => .error (.template fault)
  | .ok _ =>
    if base.getLast? = some '/' then .error .trailingSlash
    else do
      let routes ← (Route.all base).mapM route
      let site : Site :=
        { base, routes
          origins := s.origins.map Address.text
          hasTables := s.database.createsTables
          registry := .empty s (Registry.cacheOf s) }
      .ok (if s.apiPath.any Json.isHalf then site.withoutCountries else site)

/-- **A site at its end**, when all readings are forgotten. -/
def closed (site : Site) : Site :=
  { site with registry := { site.registry with cache := site.registry.cache.clear } }

/-- A site after some seconds. -/
def advance (site : Site) (seconds : Quantity) : Except Registry.Fault Site :=
  (site.registry.advance seconds).map fun registry => { site with registry }

/-! ## Reading -/

/-- The answer for a country that does not exist. -/
def noCountry (id : Int) : Response :=
  .detail 404 (.text ("Country with id " ++ intText id ++ " not found"))

/-- The answer of the tables, or that something went wrong. -/
def answer (f : α → Response) (x : Except Registry.Fault α × Registry) : Response × Registry :=
  match x.1 with
  | .ok a => (f a, x.2)
  | .error _ => (.internalError, x.2)

def countryAnswer (id : Int) : Option Detail → Response
  | some d => .ok d.json
  | none => noCountry id

def pageAnswer (page : Option Page) : Response :=
  match page.bind Page.json? with
  | some v => .ok v
  | none => .internalError

def continentsAnswer (names : Option (List String)) : Response :=
  .ok (.array ((names.getD []).map .text))

/-- A parameter in the query string that is a whole number. -/
def integerParameter (name : String) (default : Int) (pairs : List (String × String)) :
    Checked Int :=
  match QueryString.last? name pairs with
  | some s => ((integer (.text s)).under (.field name)).under (.field "query")
  | none => .ok default

/-- A parameter in the query string as a field of a search request. -/
def textParameter (name field : String) (pairs : List (String × String)) : String × Json :=
  (field, .ofText? (QueryString.last? name pairs))

/-- The fields of a search request, given the two numbers of a page. -/
def searchFields (pairs : List (String × String)) (number size : Int) : List (String × Json) :=
  [textParameter "name" "name" pairs, textParameter "continent" "continent" pairs,
    textParameter "iso2" "iso2" pairs, textParameter "iso3" "iso3" pairs,
    textParameter "countryCode" "country_code" pairs, ("page_number", .int number),
    ("page_size", .int size), textParameter "sortBy" "sort_by" pairs,
    textParameter "sortDirection" "sort_direction" pairs]

/-- **The search that a query string asks for.**  Numbers that cannot be read hide all other
issues. -/
def searchRequest (pairs : List (String × String)) : Checked Search.Request :=
  let number := integerParameter "pageNumber" 1 pairs
  let size := integerParameter "pageSize" 50 pairs
  (Prod.mk <$> number <*> size).andThen fun (number, size) =>
    Search.Request.ofFields (searchFields pairs number size)

/-! ## Writing -/

/-- The answer to a draft with a value that another country has. -/
def conflictAnswer (c : Conflict) : Response :=
  .detail 409 (.object [("field", .text c.field), ("message", .text c.text)])

/-- The draft that a request carries. -/
def draft (body : Body) : Checked Draft := body.check (Draft.read .attributesExpected)

/-- A character that the header of a response may hold. -/
def isHeaderPart (c : Char) : Bool := c.toNat ≤ 0xFF

/-- Whether the address of a country can be told: nothing in it is left open but its number. -/
def tellsAddress (site : Site) : Bool :=
  site.base.all isHeaderPart && site.routes.all fun r => r.template.names.all (· = Route.idName)

/-- The address of the site, as a request names it. -/
def root (r : Request) : String := "http://" ++ r.host

/-- The address of a country. -/
def countryAddress (site : Site) (r : Request) (id : Int) : String :=
  root r ++ String.ofList site.base ++ "/" ++ intText id

/-- The answer for a new country, if its address can be told. -/
def createdAnswer (site : Site) (r : Request) (d : Detail) : Response :=
  if site.tellsAddress then
    { Response.ok d.json with status := 201, location := some (site.countryAddress r d.id) }
  else .internalError

/-- Creates the country of a draft, unless it conflicts with another one. -/
def create (site : Site) (r : Request) (d : Draft) : Response × Registry :=
  match site.registry.conflict d none with
  | .error _ => (.internalError, site.registry)
  | .ok (some c) => (conflictAnswer c, site.registry)
  | .ok none => answer (site.createdAnswer r) (site.registry.create d)

/-- Replaces a country, unless it does not exist or the draft conflicts with another country. -/
def update (site : Site) (id : Int) (d : Draft) : Response × Registry :=
  match site.registry.contains id with
  | .error _ => (.internalError, site.registry)
  | .ok false => (noCountry id, site.registry)
  | .ok true =>
    match site.registry.conflict d (some id) with
    | .error _ => (.internalError, site.registry)
    | .ok (some c) => (conflictAnswer c, site.registry)
    | .ok none => answer (countryAnswer id) (site.registry.update id d)

def deletedAnswer (id : Int) : Bool → Response
  | true => { status := 204, content := .text "" }
  | false => noCountry id

/-! ## Requests -/

/-- The number in a path. -/
def idParameter (segment : List Char) : Checked Int :=
  ((integer (.text (String.ofList segment))).under (.field "country_id")).under (.field "path")

/-- Goes on with an accepted value if there are tables. -/
def proceed (site : Site) (x : Checked α) (f : α → Response × Registry) : Response × Registry :=
  match x with
  | .faulty issues => (.ofIssues issues, site.registry)
  | .ok a => if site.hasTables then f a else (.internalError, site.registry)

/-- Goes on with the value that a request carries. -/
def withBody (site : Site) (r : Request) (f : Body → Response × Registry) : Response × Registry :=
  match Body.read r with
  | .error response => (response, site.registry)
  | .ok body => f body

/-- The answer of an endpoint. -/
def serve (site : Site) (r : Request) (segment : List Char) : Endpoint → Response × Registry
  | .search => site.proceed (searchRequest r.pairs) fun request =>
      answer pageAnswer (site.registry.search request)
  | .continents => site.proceed (.ok ()) fun () =>
      answer continentsAnswer site.registry.continents
  | .country => site.proceed (idParameter segment) fun id =>
      answer (countryAnswer id) (site.registry.country id)
  | .create => site.withBody r fun body => site.proceed (draft body) (site.create r)
  | .update => site.withBody r fun body =>
      site.proceed (Prod.mk <$> idParameter segment <*> draft body) fun (id, d) => site.update id d
  | .delete => site.proceed (idParameter segment) fun id =>
      answer (deletedAnswer id) (site.registry.delete id)
  | .welcome => (.redirect (site.base ++ "/docs".toList), site.registry)

/-- The address of a path on the site, with the query string of a request. -/
def redirection (r : Request) (path : List Char) : Response :=
  let query := if r.queryString.isEmpty then []
    else '?' :: Percent.escapeAround Response.isKeptInQuery r.queryString
  .redirect ((root r).toList ++ path ++ query)

/-- The answer to a request by its method and path. -/
def respond (site : Site) (r : Request) : Response × Registry :=
  match dispatch site.routes r.verb r.path with
  | .to endpoint segment => site.serve r segment endpoint
  | .methodNotAllowed allowed => (.methodNotAllowed allowed, site.registry)
  | .elsewhere path => (redirection r path, site.registry)
  | .nowhere => (.notFound, site.registry)

/-- A site without dead readings. -/
def sweep (site : Site) : Site := { site with registry := site.registry.sweep }

/-- **The answer to a request and the site after it.**  Between two requests dead readings are swept
out. -/
def handle (site : Site) (r : Request) : Response × Site :=
  match Origins.preflight? site.origins r with
  | some response => (response, site.sweep)
  | none =>
    let (response, registry) := site.respond r
    let response := if r.verb = "HEAD" then response.withoutContent else response
    (Origins.mark site.origins r response, { site with registry }.sweep)

/-- **The answer to a request, if it can be made**, and the site after it. -/
def ask (site : Site) (r : Request) : Except RequestFault (Response × Site) :=
  match r.fault? with
  | some fault => .error fault
  | none => .ok (site.handle r)

end Site

end Gazetteer.Http
