import OverlayStore.Config.Storage
import OverlayStore.Log.Config

/-!
# Settings

All settings of a node: those of storage and republishing, and those of logging.
-/

namespace OverlayStore

/-- All settings of a node. -/
structure Config where
  /-- The storage settings. -/
  storage : Config.Storage := {}
  /-- The log settings. -/
  log : Log.Config := {}

namespace Config

/-- Why settings cannot be read, used or written. -/
inductive Error where
  /-- The file cannot be read. -/
  | fileRead (why : String)
  /-- The file cannot be written. -/
  | fileWrite (why : String)
  /-- The text does not describe settings. -/
  | parse (why : String)
  /-- The settings have no text. -/
  | serialize (why : String)
  /-- A variable has a value that makes no sense. -/
  | invalidValue (key reason : String)
  /-- The settings are read but unusable. -/
  | validationFailed (why : String)
  /-- A duration runs over the longest one, which brings the program down. -/
  | overrun
  deriving DecidableEq, Repr

/-- The wording of an error. -/
def Error.message : Error → String
  | .fileRead why => s!"Failed to read configuration file: {why}"
  | .fileWrite why => s!"Failed to write configuration file: {why}"
  | .parse why => s!"Failed to parse configuration: {why}"
  | .serialize why => s!"Failed to serialize configuration: {why}"
  | .invalidValue key reason => s!"Invalid value for {key}: {reason}"
  | .validationFailed why => s!"Configuration validation failed: {why}"
  | .overrun => Duration.Error.overrun.message

/-- The name of what is wrong. -/
def Error.kind : Error → String
  | .fileRead _ => "FileReadError"
  | .fileWrite _ => "FileWriteError"
  | .parse _ => "ParseError"
  | .serialize _ => "SerializeError"
  | .invalidValue .. => "InvalidValue"
  | .validationFailed _ => "ValidationFailed"
  | .overrun => "Panic"

/-- All that can be reported, for one reason. -/
def Error.all (key why : String) : List Error :=
  [.fileRead why, .fileWrite why, .parse why, .serialize why, .invalidValue key why,
    .validationFailed why]

/-- Storage settings that are usable, or the error that names their first fault. -/
def Storage.validate (settings : Storage) : Except Error Unit :=
  match settings.fault? with
  | none => .ok ()
  | some fault => .error (.validationFailed fault.message)

/-- The settings themselves if they are usable. -/
def validated (config : Config) : Except Error Config :=
  match config.storage.validate with
  | .ok () => .ok config
  | .error why => .error why

end Config

end OverlayStore
