import OverlayStore.Text.LetterCase

/-!
# Log levels

The five levels, from the most talkative to the most severe, and their names.
-/

namespace OverlayStore.Log

/-- A log level. -/
inductive Level where
  | trace
  | debug
  | info
  | warn
  | error
  deriving DecidableEq, Repr

/-- Why logging cannot be set up. -/
inductive Error where
  /-- Logging could not be started. -/
  | initializationFailed (why : String)
  /-- A setting makes no sense. -/
  | invalidConfiguration (why : String)
  /-- A part of the filter begins or ends inside a character, which brings the program down. -/
  | splitCharacter
  deriving DecidableEq, Repr

/-- The wording of an error. -/
def Error.message : Error → String
  | .initializationFailed why => s!"Failed to initialize logging: {why}"
  | .invalidConfiguration why => s!"Invalid logging configuration: {why}"
  | .splitCharacter => "part of the filter begins or ends inside a character"

/-- The name of what is wrong. -/
def Error.kind : Error → String
  | .initializationFailed _ => "InitializationFailed"
  | .invalidConfiguration _ => "InvalidConfiguration"
  | .splitCharacter => "Panic"

/-- All that can be reported, for one reason. -/
def Error.all (why : String) : List Error :=
  [.initializationFailed why, .invalidConfiguration why]

namespace Level

/-- All levels, in order of severity. -/
def all : List Level := [.trace, .debug, .info, .warn, .error]

/-- The name of a level. -/
def name : Level → String
  | .trace => "trace"
  | .debug => "debug"
  | .info => "info"
  | .warn => "warn"
  | .error => "error"

/-- The severity of a level as a number. -/
def severity : Level → Nat
  | .trace => 0
  | .debug => 1
  | .info => 2
  | .warn => 3
  | .error => 4

/-- The level with exactly this name. -/
def ofName? (name : String) : Option Level :=
  all.find? (·.name = name)

/-- The level that a text names, in any mixture of cases. The long form of `warn` is allowed. -/
def ofText (text : String) : Except Error Level :=
  let lower := Text.toLower text
  if lower = "warning" then .ok .warn
  else
    match ofName? lower with
    | some level => .ok level
    | none => .error (.invalidConfiguration s!"unknown log level '{lower}'")

end Level

end OverlayStore.Log
