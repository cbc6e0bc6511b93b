import OverlayStore.Json
import OverlayStore.Log.Filter
import OverlayStore.Log.Level

/-!
# Log settings

What is logged and in which form, and the filter that follows from it.
-/

namespace OverlayStore.Log

/-- The log settings. -/
structure Config where
  /-- The level for every target without a directive of its own. -/
  level : Level := .info
  /-- Directives for single targets. -/
  directives : List String := []
  /-- Whether events show their target. -/
  withTarget : Bool := true
  /-- Whether events are written as JSON. -/
  jsonFormat : Bool := false
  deriving DecidableEq, Repr

namespace Config

/-- The text of the filter: the level, then the directives without blanks around them. -/
def filterText (config : Config) : String :=
  let parts := config.level.name :: config.directives.map Text.trim
  ",".intercalate (parts.filter (!·.isEmpty))

/-- The filter of the settings. -/
def ownFilter (config : Config) : Except Error String :=
  let text := config.filterText
  match Filter.read text with
  | .ok () => .ok text
  | .error .malformed => .error (.invalidConfiguration s!"bad log filter '{text}':")
  | .error .splitCharacter => .error .splitCharacter

/-- The filter in force: the one from the environment if it is good, else that of the settings. -/
def filter (config : Config) (environment : Option String) : Except Error String :=
  match environment with
  | none => config.ownFilter
  | some text =>
    match Filter.read text with
    | .ok () => .ok text
    | .error .malformed => config.ownFilter
    | .error .splitCharacter => .error .splitCharacter

/-- The settings as a JSON record. -/
def toJson (config : Config) : Json :=
  .object [
    ("level", .string config.level.name),
    ("directives", .array (config.directives.map .string)),
    ("with_target", .bool config.withTarget),
    ("json_format", .bool config.jsonFormat)]

end Config

/-- Start logging. A process logs through one subscriber only, so a second start fails, but a bad
filter is reported first. -/
def start (config : Config) (environment : Option String) (started : Bool) : Except Error String :=
  match config.filter environment with
  | .error why => .error why
  | .ok text =>
    if started then
      .error (.initializationFailed
        "a global default trace dispatcher has already been set")
    else .ok text

end OverlayStore.Log
