import OverlayStore.CommandLine.Help
import OverlayStore.Config.Environment
import OverlayStore.Config.Text

/-!
# The program

What the command does, given its arguments, the variables of its environment and the files it may
read. The result is what it prints, the events that it logs, and how it exits.
-/

namespace OverlayStore.Program

/-- An event to be logged. -/
structure Event where
  /-- How severe it is. -/
  level : Log.Level
  /-- What it says, as named texts. -/
  fields : List (String × String)

/-- An event as a line of a log. -/
def Event.line (log : Log.Config) (event : Event) : String :=
  if log.jsonFormat then
    (Json.object [("level", .string event.level.name),
      ("fields", .object (event.fields.map fun (name, text) => (name, .string text)))]).toText
  else
    " ".intercalate (event.level.name :: event.fields.map fun (name, text) =>
      if name = "message" then text else s!"{name}={text}")

/-- What a run of the command leaves. -/
structure Outcome where
  /-- The exit code. -/
  exit : Nat := 0
  /-- What is printed. -/
  out : String := ""
  /-- What is printed as an error. -/
  err : String := ""
  /-- What happens, in order. -/
  events : List Event := []
  /-- The seconds between the first event and the others. -/
  seconds : Nat := 0
  /-- The log settings. -/
  log : Log.Config := {}

/-- The lines that are logged for some events: those at the level in force and above. -/
def Outcome.lines (outcome : Outcome) (events : List Event) : List String :=
  (events.filter fun event => outcome.log.level.severity ≤ event.level.severity).map
    (Event.line outcome.log)

/-- The surroundings of the command. -/
structure World where
  /-- The variables of the environment. -/
  environment : String → Option String
  /-- The contents of files, by path. -/
  read : String → Except Config.Error Bytes
  /-- The time. -/
  now : Time

/-- The variable whose value replaces the configured log filter. -/
def filterVariable : String := "RUST_LOG"

/-- The variables that a run may ask for. -/
def variableNames : List String := filterVariable :: Config.Variable.all.map (·.name)

/-- The paths that a run may read. -/
def paths (arguments : List String) : List String :=
  match CommandLine.parse arguments with
  | .error _ => []
  | .ok arguments =>
    let checked := match arguments.command with
      | some (.validate path) => [path]
      | _ => []
    arguments.configPath.toList ++ checked

/-- The failure of a run: an error, perhaps with what it is about in front. -/
structure Failure where
  /-- What the error is about. -/
  context : Option String := none
  /-- What went wrong. -/
  message : String
  /-- The exit code. -/
  exit : Nat := 1

/-- The exit code of a program that comes down. -/
def downExit : Nat := 101

/-- The exit code for an error in settings. -/
def exitOf : Config.Error → Nat
  | .overrun => downExit
  | _ => 1

/-- The exit code for an error in logging. -/
def exitOfLog : Log.Error → Nat
  | .splitCharacter => downExit
  | _ => 1

/-- The text of a failure. -/
def Failure.text (failure : Failure) : String :=
  match failure.context with
  | none => s!"Error: {failure.message}\n"
  | some context => s!"Error: {context}\n\nCaused by:\n    {failure.message}\n"

/-- The settings in a file. -/
def configAt (world : World) (path : String) : Except Config.Error Config := do
  let content ← world.read path
  Config.ofFile content

/-- The settings in force before the arguments change them. -/
def loadConfig (world : World) (path : Option String) : Except Failure Config :=
  match path with
  | some path => (configAt world path).mapError fun why =>
      ⟨some s!"failed to load configuration from {path}", why.message, exitOf why⟩
  | none => (Config.ofLookup world.environment).mapError fun why =>
      ⟨some "invalid KADMOS_* environment configuration", why.message, exitOf why⟩

/-- The level in force, and a remark if the one asked for does not exist. -/
def chooseLevel (configured : Log.Level) (asked : Option String) : Log.Level × String :=
  match asked.map Log.Level.ofText with
  | none => (configured, "")
  | some (.ok level) => (level, "")
  | some (.error why) => (configured, s!"{why.message}, using '{configured.name}'\n")

/-- The event for a line of a demo's report. -/
def eventOf (line : Demo.Line) : Event :=
  match line with
  | .neverPublished _ => ⟨.warn, line.fields⟩
  | _ => ⟨.info, line.fields⟩

/-- The event that a demo begins with. -/
def demoEvent (plan : Demo.Plan) : Event :=
  ⟨.info, [("message", "Starting loopback demo"), ("seconds", toString plan.seconds),
    ("peers", toString plan.peers), ("values", toString plan.values)]⟩

/-- Carry out a command under some settings. -/
def carryOut (world : World) (config : Config) : Option CommandLine.Command →
    Except Failure Outcome
  | none => .ok { events := [⟨.info,
      [("message", "No command specified. Use --help for usage information.")]⟩] }
  | some .config =>
    match config.toText with
    | .ok text => .ok { out := text ++ "\n" }
    | .error why => .error ⟨none, why.message, exitOf why⟩
  | some (.validate path) =>
    match configAt world path with
    | .ok _ => .ok { out := s!"{path} is valid\n" }
    | .error why => .error ⟨none, why.message, exitOf why⟩
  | some (.demo plan) =>
    match Demo.report config.storage plan world.now with
    | .ok lines => .ok { events := demoEvent plan :: lines.map eventOf, seconds := plan.seconds }
    | .error why => .error ⟨none, why.message, 1⟩

/-- Run the command with arguments that make sense. -/
def runWith (world : World) (arguments : CommandLine.Arguments) : Outcome :=
  match loadConfig world arguments.configPath with
  | .error failure => { exit := failure.exit, err := failure.text }
  | .ok config =>
    let (level, remark) := chooseLevel config.log.level arguments.logLevel
    let log := { config.log with
      level
      directives := config.log.directives ++ arguments.logDirectives
      jsonFormat := config.log.jsonFormat || arguments.jsonLogs }
    let outcome : Except Failure Outcome :=
      match Log.start log (world.environment filterVariable) false with
      | .error why => .error ⟨none, why.message, exitOfLog why⟩
      | .ok _ => carryOut world { config with log } arguments.command
    match outcome with
    | .ok outcome => { outcome with err := remark, log }
    | .error failure => { exit := failure.exit, err := remark ++ failure.text, log }

/-- Run the command. Asking for help or for the version is no error. -/
def run (world : World) (arguments : List String) : Outcome :=
  match CommandLine.parse arguments with
  | .ok arguments => runWith world arguments
  | .error (.displayHelp subcommand) => { out := CommandLine.helpText subcommand }
  | .error .displayVersion => { out := CommandLine.versionText }
  | .error fault => { exit := 2, err := s!"error: {fault.name}\n" }

end OverlayStore.Program
