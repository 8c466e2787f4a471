import Gazetteer.Settings.Basic

/-!
# Loggers

Loggers form a tree by the dots in their names.  A few of them have a level of their own; every
other one has the level of the nearest logger above it that has one.

* `effectiveLevel`: the level of a logger;
* `accessHandlers`: where the access log goes.
-/

namespace Gazetteer.Settings

/-- The name of the logger at the root of the tree. -/
def rootLogger : String := "root"

/-- The loggers that have a level of their own, besides the root. -/
def Logging.ownLevels (s : Logging) : List (String × Level) :=
  [("sqlalchemy", s.databaseLevel), ("app", s.level), ("app.services", s.servicesLevel),
    ("uvicorn.error", .info), ("uvicorn.access", .info)]

/-- Whether a logger is the other one or below it. -/
def isBelow (name above : String) : Bool :=
  name = above || (above.toList ++ ['.']).isPrefixOf name.toList

/-- Of two loggers with a level, the one further down. -/
def further (a b : String × Level) : String × Level :=
  if a.1.length < b.1.length then b else a

/-- **The level of a logger.** -/
def Logging.effectiveLevel (s : Logging) (name : String) : Level :=
  ((s.ownLevels.filter fun (above, _) => isBelow name above).foldl further ("", .info)).2

/-- **The handlers of the access log.** -/
def Logging.accessHandlers (s : Logging) : List String :=
  [if s.takesAccessLog then "default" else "uvicorn.access"]

end Gazetteer.Settings
