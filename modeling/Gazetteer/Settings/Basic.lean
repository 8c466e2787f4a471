import Gazetteer.Json.Points
import Gazetteer.Url.Basic

/-!
# Settings

What a service is set up with: its name and place, the database, the lifetimes of read results, the
origins whose pages may call it, and what it logs.

* `Database.uri`: the address of the database, assembled from its parts unless it is given;
* `Settings.default`: the settings of a service that is given none.
-/

namespace Gazetteer

namespace Settings

/-- The severity from which on messages are logged. -/
inductive Level where
  | debug
  | info
  | warning
  deriving DecidableEq, Repr

def Level.word : Level → String
  | .debug => "DEBUG"
  | .info => "INFO"
  | .warning => "WARNING"

/-- Where the tables are.  The texts are kept by their code points, as they may be torn. -/
structure Database where
  server : List Nat
  name : List Nat
  user : List Nat
  password : List Nat
  poolSize : Int
  maxOverflow : Int
  /-- Whether missing tables are created at the start. -/
  createsTables : Bool
  /-- The address, if it is given and not assembled. -/
  givenUri : Option (List Nat)
  deriving DecidableEq, Repr

/-- The address put together from user, password, server and name. -/
def Database.assembledUri (d : Database) : List Nat :=
  Json.codePoints "postgresql://" ++ d.user ++ ':'.toNat :: d.password ++ '@'.toNat :: d.server
    ++ '/'.toNat :: d.name

/-- **The address of the database.** -/
def Database.uri (d : Database) : List Nat := d.givenUri.getD d.assembledUri

/-- How long and how many read results are kept. -/
structure Retention where
  isEnabled : Bool
  countryMinutes : Int
  searchMinutes : Int
  capacity : Int
  deriving DecidableEq, Repr

/-- The lifetime of countries and of the list of continents, in seconds. -/
def Retention.countrySeconds (r : Retention) : Int := r.countryMinutes * 60

/-- The lifetime of pages, in seconds. -/
def Retention.searchSeconds (r : Retention) : Int := r.searchMinutes * 60

/-- What is logged, and how. -/
structure Logging where
  level : Level
  databaseLevel : Level
  servicesLevel : Level
  takesAccessLog : Bool
  asJson : Bool
  tracesSpans : Bool
  deriving DecidableEq, Repr

end Settings

open Settings in
/-- **The settings of a service.** -/
structure Settings where
  /-- By its code points, as it may be torn. -/
  projectName : List Nat
  /-- The part of all paths that names the version, by its code points. -/
  apiPath : List Nat
  database : Database
  retention : Retention
  /-- The origins whose pages may call the service. -/
  origins : List Address
  logging : Logging
  isDebug : Bool
  deriving DecidableEq, Repr

namespace Settings

/-- The root of a site without encryption. -/
def localRoot (host port : String) : Address := ⟨"http", "", host, some port, [""], none, none⟩

def defaultDatabase : Database where
  server := Json.codePoints "localhost"
  name := Json.codePoints "postgres"
  user := Json.codePoints "postgres"
  password := []
  poolSize := 10
  maxOverflow := 10
  createsTables := true
  givenUri := none

def defaultRetention : Retention where
  isEnabled := true
  countryMinutes := 60
  searchMinutes := 30
  capacity := 1000

def defaultLogging : Logging where
  level := .info
  databaseLevel := .warning
  servicesLevel := .info
  takesAccessLog := true
  asJson := false
  tracesSpans := false

/-- **The settings of a service that is given none.** -/
def default : Settings where
  projectName := Json.codePoints "Country Service API"
  apiPath := Json.codePoints "/v1"
  database := defaultDatabase
  retention := defaultRetention
  origins := [localRoot "localhost" "3000", localRoot "localhost" "8000",
    localRoot "127.0.0.1" "8000"]
  logging := defaultLogging
  isDebug := false

end Settings

end Gazetteer
