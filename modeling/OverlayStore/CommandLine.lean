import OverlayStore.CommandLine.Grammar
import OverlayStore.Demo

/-!
# The command line

The arguments of the command: settings to be changed, and what to do.
-/

namespace OverlayStore.CommandLine

/-- What to do. -/
inductive Command where
  /-- Print the settings. -/
  | config
  /-- Check a file of settings. -/
  | validate (path : String)
  /-- Try publishing out. -/
  | demo (plan : Demo.Plan)
  deriving DecidableEq, Repr

/-- The arguments of the command. -/
structure Arguments where
  /-- The log level to use in place of the configured one. -/
  logLevel : Option String := none
  /-- Further log directives. -/
  logDirectives : List String := []
  /-- Write log events as JSON. -/
  jsonLogs : Bool := false
  /-- The file to read the settings from. -/
  configPath : Option String := none
  /-- What to do, if anything. -/
  command : Option Command := none
  deriving DecidableEq, Repr

/-- The option that asks for help on a subcommand, or on the whole. -/
def helpOption (subcommand : Option String) : Item :=
  ⟨"help", some 'h', .help subcommand, "Print help", ""⟩

/-- The grammar of a line. -/
def mainGrammar : Grammar where
  options := [
    ⟨"log-level", some 'l', .single .text,
      "Override the log level (trace, debug, info, warn, error)", "LOG_LEVEL"⟩,
    ⟨"log-directive", none, .many .text, "Extra `target=level` log filter, may be repeated",
      "LOG_DIRECTIVES"⟩,
    ⟨"json-logs", none, .flag, "Enable JSON formatted logging", ""⟩,
    ⟨"config", some 'c', .single .path,
      "TOML configuration file. Without it, defaults and KADMOS_* variables apply", "CONFIG"⟩,
    helpOption none,
    ⟨"version", some 'V', .version, "Print version", ""⟩]
  subcommands := ["config", "validate", "demo", "help"]

/-- The grammar after `config`. -/
def configGrammar : Grammar where
  options := [helpOption (some "config")]

/-- The grammar after `validate`. -/
def validateGrammar : Grammar where
  options := [helpOption (some "validate")]
  operands := [⟨"path", none, .single .path, "", "PATH"⟩]

/-- An option of the demo, with what it is when it is not given. -/
def demoOption (name : String) (short : Char) (about : String) (default : Nat)
    (valueName : String) : Item :=
  ⟨name, some short, .single .number, s!"{about} [default: {default}]", valueName⟩

/-- The grammar after `demo`. -/
def demoGrammar : Grammar where
  options :=
    let plan : Demo.Plan := {}
    [demoOption "seconds" 's' "How long to keep the node running, in seconds" plan.seconds
      "SECONDS",
    demoOption "peers" 'p' "Number of peers in the overlay" plan.peers "PEERS",
    demoOption "values" 'v' "Number of values the local node owns" plan.values "VALUES",
    helpOption (some "demo")]

/-- The number given for a name, or the default. -/
def numberOr (findings : Findings) (name : String) (default : Nat) : Nat :=
  match (findings.value? name).map Number.wholeOfText with
  | some (.ok value) => value
  | _ => default

/-- Nothing can follow a subcommand but its own options and operands. -/
def noSubcommand (_ : String) (_ : List String) : Except Fault Unit := .ok ()

/-- Asking for help on nothing, on the whole or on one subcommand. -/
def helpFault (names : List String) : Fault :=
  match names with
  | [] => .displayHelp none
  | [name] =>
    if mainGrammar.subcommands.contains name then .displayHelp (some name) else .invalidSubcommand
  | _ => .invalidSubcommand

/-- Read what follows a subcommand. -/
def readSubcommand (name : String) (arguments : List String) : Except Fault Command :=
  match name with
  | "config" => do
    let _ ← configGrammar.read noSubcommand arguments
    return .config
  | "validate" => do
    let (findings, _) ← validateGrammar.read noSubcommand arguments
    return .validate ((findings.value? "path").getD "")
  | "demo" => do
    let (findings, _) ← demoGrammar.read noSubcommand arguments
    let plan : Demo.Plan := {}
    return .demo ⟨numberOr findings "seconds" plan.seconds, numberOr findings "peers" plan.peers,
      numberOr findings "values" plan.values⟩
  | _ => .error (helpFault arguments)

/-- Read the arguments of the command. -/
def parse (arguments : List String) : Except Fault Arguments := do
  let (findings, command) ← mainGrammar.read readSubcommand arguments
  return {
    logLevel := findings.value? "log-level"
    logDirectives := (findings.values? "log-directive").getD []
    jsonLogs := (findings.values? "json-logs").isSome
    configPath := findings.value? "config"
    command }

/-- The version text of the command. -/
def versionText : String := "kadmos 0.1.0\n"

end OverlayStore.CommandLine
