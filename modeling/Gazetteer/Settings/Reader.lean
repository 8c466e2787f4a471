import Gazetteer.Json.Points
import Gazetteer.Json.Reader
import Gazetteer.Settings.Basic
import Gazetteer.Text.Casing
import Gazetteer.Text.CommaList
import Gazetteer.Validation.Rule

/-!
# Reading settings

Settings are given by name, as arguments or in the environment; an argument goes before the
environment, and where both are objects, their fields are put together.  The environment holds
texts, and the list of origins is written there as JSON.  An argument with an unknown name is
refused, an unknown name in the environment is not looked at.  A few arguments are no settings but
tell how the environment is looked at.

* `Settings.read`: the settings, or why they are refused;
* `Settings.json`: all settings as a JSON value;
* `Lookup`: how a setting is looked up in the environment.
-/

namespace Gazetteer.Settings

open Text Validation

/-- **Why settings are refused.** -/
inductive Fault where
  /-- A setting in the environment that is no JSON text. -/
  | unreadable (name : String)
  /-- A JSON text in the environment with values within too many others. -/
  | tooDeep (problem : Json.Problem)
  | rejected (rejection : Rejection)
  deriving Repr

/-- The wording of a fault. -/
def Fault.message : Fault → String
  | .unreadable name =>
    "error parsing value for field \"" ++ name ++ "\" from source \"EnvSettingsSource\""
  | .tooDeep problem => problem.message
  | .rejected rejection => rejection.message

/-! ## The environment -/

/-- The setting that is written as JSON in the environment. -/
def originsName : String := "BACKEND_CORS_ORIGINS"

/-- The setting that is the address of the database. -/
def uriName : String := "SQLALCHEMY_DATABASE_URI"

/-- The names of all settings. -/
def names : List String :=
  ["PROJECT_NAME", "API_V1_STR", "POSTGRESQL_SERVER", "POSTGRESQL_DATABASE", "POSTGRESQL_USER",
    "POSTGRESQL_PASSWORD", "DATABASE_POOL_SIZE", "DATABASE_MAX_OVERFLOW",
    "CREATE_TABLES_ON_STARTUP", uriName, "COUNTRY_CACHE_ENABLED",
    "COUNTRY_CACHE_DURATION_MINUTES", "SEARCH_CACHE_DURATION_MINUTES", "MAX_CACHE_SIZE",
    originsName, "LOGGING_LEVEL", "SQLALCHEMY_LOGGING_LEVEL", "SERVICES_LOGGING_LEVEL",
    "LOG_UVICORN_ACCESS", "LOG_AS_JSON", "ENABLE_OTEL_TRACING", "DEBUG"]

/-- The names of the arguments that are no settings. -/
def lookupNames : List String :=
  ["_case_sensitive", "_nested_model_default_partial_update", "_env_prefix", "_env_prefix_target",
    "_env_file", "_env_file_encoding", "_env_ignore_empty", "_env_nested_delimiter",
    "_env_nested_max_split", "_env_parse_none_str", "_env_parse_enums", "_cli_prog_name",
    "_cli_parse_args", "_cli_settings_source", "_cli_parse_none_str", "_cli_hide_none_type",
    "_cli_avoid_json", "_cli_enforce_required", "_cli_use_class_docs_for_groups",
    "_cli_exit_on_error", "_cli_prefix", "_cli_flag_prefix_char", "_cli_implicit_flags",
    "_cli_ignore_unknown_args", "_cli_kebab_case", "_cli_shortcuts", "_secrets_dir",
    "_build_sources"]

/-- **How a setting is looked up in the environment.** -/
structure Lookup where
  /-- What stands before the names of all settings. -/
  lead : String := ""
  heedsCase : Bool := true
  /-- Whether the empty text counts as not given. -/
  skipsEmpty : Bool := false
  /-- The text that stands for nothing, if there is one. -/
  absent : Option String := none

namespace Lookup

/-- Whether an argument switches something on, for want of an argument the default. -/
def switch (default : Bool) : Option Json → Bool
  | none | some .null => default
  | some (.bool b) => b
  | some (.int n) => n ≠ 0
  | some (.text s) => s ≠ ""
  | some _ => true

/-- The lookup that arguments ask for. -/
def ofArguments (arguments : List (String × Json)) : Lookup where
  lead := ((Json.fieldOf? "_env_prefix" arguments).bind Json.text?).getD ""
  heedsCase := switch true (Json.fieldOf? "_case_sensitive" arguments)
  skipsEmpty := switch false (Json.fieldOf? "_env_ignore_empty" arguments)
  absent := (Json.fieldOf? "_env_parse_none_str" arguments).bind Json.text?

/-- Whether a name in the environment is that of a setting. -/
def isNameOf (l : Lookup) (setting name : String) : Bool :=
  if l.heedsCase then name = l.lead ++ setting else lower name = lower (l.lead ++ setting)

/-- The text of a setting in the environment, the last one if there are several. -/
def text? (l : Lookup) (environment : List (String × String)) (setting : String) :
    Option String :=
  (environment.reverse.find? fun (name, value) =>
    l.isNameOf setting name && !(l.skipsEmpty && value = "")).map (·.2)

end Lookup

/-- The depth up to which values in a JSON text of the environment are followed. -/
def greatestDepth : Nat := 985

/-- How a JSON text of the environment is read.  Whole numbers in it are converted whatever their
length; where long ones are not, the settings are refused as they are here, if for another reason,
since no origin is a number. -/
def limits : Json.Limits := { depth := some greatestDepth }

/-- The origins as the environment gives them. -/
def originsOfText (text : String) : Except Fault (Option Json) :=
  match Json.readWithin limits text with
  | .ok .null => .ok none
  | .ok v => .ok (some v)
  | .error ⟨problem, _⟩ =>
    if problem = .deepArray ∨ problem = .deepObject then .error (.tooDeep problem)
    else .error (.unreadable originsName)

/-- The value of a setting that the environment gives. -/
def valueOfText (l : Lookup) (setting text : String) : Except Fault (Option Json) :=
  if l.absent = some text then .ok (some .null)
  else if setting = originsName then originsOfText text
  else .ok (some (.text text))

/-- The settings that the environment gives. -/
def fromEnvironment (l : Lookup) (environment : List (String × String)) :
    List String → Except Fault (List (String × Json))
  | [] => .ok []
  | setting :: rest => do
    match l.text? environment setting with
    | none => fromEnvironment l environment rest
    | some text =>
      match ← valueOfText l setting text with
      | none => fromEnvironment l environment rest
      | some v => return (setting, v) :: (← fromEnvironment l environment rest)

/-! ## The groups -/

/-- A level by its word. -/
def Level.read : Json → Checked Level :=
  oneOf ([.debug, .info, .warning].map fun (l : Level) => (l.word, l))

/-- A setting by its only name. -/
def setting (name : String) (default : α) (rule : Json → Checked α)
    (fields : List (String × Json)) : Checked α :=
  withDefault [name] default rule fields

def Database.ofFields (fields : List (String × Json)) : Checked Database :=
  let default := defaultDatabase
  Database.mk
    <$> setting "POSTGRESQL_SERVER" default.server textPoints fields
    <*> setting "POSTGRESQL_DATABASE" default.name textPoints fields
    <*> setting "POSTGRESQL_USER" default.user textPoints fields
    <*> setting "POSTGRESQL_PASSWORD" default.password textPoints fields
    <*> setting "DATABASE_POOL_SIZE" default.poolSize integer fields
    <*> setting "DATABASE_MAX_OVERFLOW" default.maxOverflow integer fields
    <*> setting "CREATE_TABLES_ON_STARTUP" default.createsTables flag fields
    <*> setting uriName none (.ok <| Json.points? ·) fields

def Retention.ofFields (fields : List (String × Json)) : Checked Retention :=
  let default := defaultRetention
  Retention.mk
    <$> setting "COUNTRY_CACHE_ENABLED" default.isEnabled flag fields
    <*> setting "COUNTRY_CACHE_DURATION_MINUTES" default.countryMinutes (atLeast 1) fields
    <*> setting "SEARCH_CACHE_DURATION_MINUTES" default.searchMinutes (atLeast 1) fields
    <*> setting "MAX_CACHE_SIZE" default.capacity (atLeast 100) fields

/-- **The origins**, as a list or as a text with commas that does not begin with a bracket. -/
def readOrigins (v : Json) : Checked (List Address) :=
  match v with
  | .array _ => items webAddress v
  | .text s =>
    if s.toList.head? = some '[' then .refuse .listExpected v
    else items webAddress (.array ((commaParts s).map .text))
  | .torn points =>
    if points.head? = some '['.toNat then .refuse .listExpected v
    else items webAddress (.array (Json.tornParts points))
  | v => .refuse (.refused v.inline) v

def Logging.ofFields (fields : List (String × Json)) : Checked Logging :=
  let default := defaultLogging
  Logging.mk
    <$> setting "LOGGING_LEVEL" default.level Level.read fields
    <*> setting "SQLALCHEMY_LOGGING_LEVEL" default.databaseLevel Level.read fields
    <*> setting "SERVICES_LOGGING_LEVEL" default.servicesLevel Level.read fields
    <*> setting "LOG_UVICORN_ACCESS" default.takesAccessLog flag fields
    <*> setting "LOG_AS_JSON" default.asJson flag fields
    <*> setting "ENABLE_OTEL_TRACING" default.tracesSpans flag fields

/-- The refusal of a name that is not known. -/
def unknown (name : String) (v : Json) : Checked Unit :=
  (Checked.refuse .unknownField v).under (.toField name v)

/-- The refusal of all names that are not known. -/
def knownOnly : List (String × Json) → Checked Unit
  | [] => .ok ()
  | (name, v) :: fields =>
    if (names ++ lookupNames).contains name then knownOnly fields
    else (fun _ _ => ()) <$> unknown name v <*> knownOnly fields

/-! ## All settings -/

def ofFields (fields : List (String × Json)) : Checked Settings :=
  (fun settings _ => settings)
    <$> (Settings.mk
      <$> setting "PROJECT_NAME" default.projectName textPoints fields
      <*> setting "API_V1_STR" default.apiPath textPoints fields
      <*> Database.ofFields fields
      <*> Retention.ofFields fields
      <*> setting originsName default.origins readOrigins fields
      <*> Logging.ofFields fields
      <*> setting "DEBUG" default.isDebug flag fields)
    <*> knownOnly fields

/-- The kind of record under which settings are refused. -/
def kind : String := "Settings"

/-- **The settings given by arguments and environment.** -/
def read (arguments : List (String × Json)) (environment : List (String × String)) :
    Except Fault Settings := do
  let given ← fromEnvironment (.ofArguments arguments) environment names
  ((ofFields (Json.update given arguments)).toExcept kind).mapError .rejected

/-- **All settings as a value.** -/
def json (s : Settings) : Json :=
  .object [("PROJECT_NAME", .ofPoints s.projectName), ("API_V1_STR", .ofPoints s.apiPath),
    ("POSTGRESQL_SERVER", .ofPoints s.database.server),
    ("POSTGRESQL_DATABASE", .ofPoints s.database.name),
    ("POSTGRESQL_USER", .ofPoints s.database.user),
    ("POSTGRESQL_PASSWORD", .ofPoints s.database.password),
    ("DATABASE_POOL_SIZE", .int s.database.poolSize),
    ("DATABASE_MAX_OVERFLOW", .int s.database.maxOverflow),
    ("CREATE_TABLES_ON_STARTUP", .bool s.database.createsTables),
    (uriName, .ofPoints s.database.uri),
    ("COUNTRY_CACHE_ENABLED", .bool s.retention.isEnabled),
    ("COUNTRY_CACHE_DURATION_MINUTES", .int s.retention.countryMinutes),
    ("SEARCH_CACHE_DURATION_MINUTES", .int s.retention.searchMinutes),
    ("MAX_CACHE_SIZE", .int s.retention.capacity),
    (originsName, .array (s.origins.map (.text ·.text))),
    ("LOGGING_LEVEL", .text s.logging.level.word),
    ("SQLALCHEMY_LOGGING_LEVEL", .text s.logging.databaseLevel.word),
    ("SERVICES_LOGGING_LEVEL", .text s.logging.servicesLevel.word),
    ("LOG_UVICORN_ACCESS", .bool s.logging.takesAccessLog), ("LOG_AS_JSON", .bool s.logging.asJson),
    ("ENABLE_OTEL_TRACING", .bool s.logging.tracesSpans), ("DEBUG", .bool s.isDebug)]

end Gazetteer.Settings
