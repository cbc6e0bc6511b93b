import OverlayStore.Number.Text

/-!
# Command-line grammars

What may be written on a command line, and how it is read: options with a short and a long form,
their values attached or in the next argument, operands in fixed order, and subcommands, which read
what comes after them by a grammar of their own. After `--` everything is an operand.

An option whose value comes in the next argument, like an operand, is only settled when the next
option is met or the line ends. So the faults of a subcommand come before those of the option just
in front of it.
-/

namespace OverlayStore.CommandLine

/-- Why a command line is not obeyed. -/
inductive Fault where
  /-- Help was asked for, on a subcommand or on the whole. -/
  | displayHelp (subcommand : Option String)
  /-- The version was asked for. -/
  | displayVersion
  | unknownArgument
  | invalidSubcommand
  /-- A value is missing or empty. -/
  | invalidValue
  /-- A value is not what it should be. -/
  | valueValidation
  /-- A flag has a value. -/
  | tooManyValues
  /-- An operand is missing. -/
  | missingRequiredArgument
  /-- An option is given twice that may be given once. -/
  | argumentConflict
  deriving DecidableEq, Repr

/-- The name of a fault. -/
def Fault.name : Fault → String
  | .displayHelp _ => "DisplayHelp"
  | .displayVersion => "DisplayVersion"
  | .unknownArgument => "UnknownArgument"
  | .invalidSubcommand => "InvalidSubcommand"
  | .invalidValue => "InvalidValue"
  | .valueValidation => "ValueValidation"
  | .tooManyValues => "TooManyValues"
  | .missingRequiredArgument => "MissingRequiredArgument"
  | .argumentConflict => "ArgumentConflict"

/-- What a value has to be. -/
inductive ValueKind where
  /-- Any text. -/
  | text
  /-- A path, which is not empty. -/
  | path
  /-- A whole number of 64 bits. -/
  | number
  deriving DecidableEq, Repr

/-- Check a value. -/
def ValueKind.check (kind : ValueKind) (value : String) : Except Fault Unit :=
  match kind with
  | .text => .ok ()
  | .path => if value.isEmpty then .error .invalidValue else .ok ()
  | .number =>
    match Number.wholeOfText value with
    | .ok _ => .ok ()
    | .error _ => .error .valueValidation

/-- What an option does. -/
inductive Effect where
  /-- Ask for help on a subcommand, or on the whole. -/
  | help (subcommand : Option String)
  /-- Ask for the version. -/
  | version
  /-- Stand for itself, at most once. -/
  | flag
  /-- Take one value, at most once. -/
  | single (kind : ValueKind)
  /-- Take one value each time. -/
  | many (kind : ValueKind)
  deriving DecidableEq, Repr

/-- The effect has a value. -/
def Effect.takesValue : Effect → Bool
  | .single _ | .many _ => true
  | _ => false

/-- An option or an operand. -/
structure Item where
  /-- What it is called in the result; an option's long form is this name too. -/
  name : String
  /-- The short form. -/
  short : Option Char := none
  /-- What it does. -/
  effect : Effect
  /-- What it is for. -/
  about : String := ""
  /-- How its value is called in help. -/
  valueName : String := ""
  deriving DecidableEq, Repr

/-- What may be written. -/
structure Grammar where
  /-- The options. -/
  options : List Item
  /-- The operands, all of which have to be given. -/
  operands : List Item := []
  /-- The names of the subcommands. -/
  subcommands : List String := []

/-- The values that have been given for each name. -/
abbrev Findings := List (String × List String)

namespace Findings

/-- The values given for a name, if it was met at all. -/
def values? (findings : Findings) (name : String) : Option (List String) :=
  findings.lookup name

/-- The first value given for a name. -/
def value? (findings : Findings) (name : String) : Option String :=
  (findings.values? name).bind List.head?

/-- Add values to those of a name. -/
def add (findings : Findings) (name : String) (values : List String) : Findings :=
  (name, (findings.values? name).getD [] ++ values) :: findings

end Findings

/-- How far a line has been read. -/
structure Progress where
  /-- What is settled. -/
  findings : Findings := []
  /-- What is still to be settled, with its values. -/
  pending : Option (Item × List String) := none
  /-- The next argument is the value of the pending option, unless it looks like an option. -/
  awaiting : Bool := false
  /-- Everything that follows is an operand. -/
  escaped : Bool := false
  /-- The operands that have not been met. -/
  operands : List Item

namespace Progress

/-- Settle an item with its values: their number is checked first, then whether the item may be
given again, and then each value. -/
def settle (progress : Progress) (item : Item) (values : List String) : Except Fault Progress :=
  let repeated := (progress.findings.values? item.name).isSome
  let found := { progress with findings := progress.findings.add item.name values }
  match item.effect with
  | .help subcommand => .error (.displayHelp subcommand)
  | .version => .error .displayVersion
  | .flag => if repeated then .error .argumentConflict else .ok found
  | .single kind =>
    if values.isEmpty then .error .invalidValue
    else if repeated then .error .argumentConflict
    else do
      let _ ← values.mapM kind.check
      return found
  | .many kind =>
    if values.isEmpty then .error .invalidValue
    else do
      let _ ← values.mapM kind.check
      return found

/-- Settle what is pending. -/
def settlePending (progress : Progress) : Except Fault Progress :=
  match progress.pending with
  | none => .ok progress
  | some (item, values) => settle { progress with pending := none } item values

/-- Meet an option, with the value that is attached to it. An attached value is settled at once. -/
def meetOption (progress : Progress) (item : Item) (attached : Option String) :
    Except Fault Progress := do
  let progress ← progress.settlePending
  match item.effect.takesValue, attached with
  | true, none => return { progress with pending := some (item, []), awaiting := true }
  | _, _ => settle { progress with awaiting := false } item attached.toList

end Progress

namespace Grammar

/-- Read an argument that begins with two dashes, which are cut off. -/
def readLong (grammar : Grammar) (progress : Progress) (argument : List Char) :
    Except Fault Progress :=
  let name := String.ofList (argument.takeWhile (· ≠ '='))
  let attached :=
    if argument.contains '=' then
      some (String.ofList ((argument.dropWhile (· ≠ '=')).drop 1))
    else none
  match grammar.options.find? fun item => item.name = name with
  | none => .error .unknownArgument
  | some item =>
    if attached.isSome && !item.effect.takesValue then .error .tooManyValues
    else progress.meetOption item attached

/-- Read short options that stand together after one dash. The rest of the argument is the value of
the first of them that takes one; an equals sign may come between. -/
def readShorts (grammar : Grammar) (progress : Progress) : List Char → Except Fault Progress
  | [] => .ok progress
  | c :: rest =>
    match grammar.options.find? fun item => item.short = some c with
    | none => .error .unknownArgument
    | some item =>
      if item.effect.takesValue then
        match rest with
        | [] => progress.meetOption item none
        | '=' :: value => progress.meetOption item (some (String.ofList value))
        | value => progress.meetOption item (some (String.ofList value))
      else do
        let progress ← progress.meetOption item none
        readShorts grammar progress rest

/-- What to make of an operand when none is expected. -/
def surplus (grammar : Grammar) (progress : Progress) (argument : String) : Fault :=
  if grammar.subcommands.isEmpty then .unknownArgument
  else if progress.escaped && grammar.subcommands.contains argument then .unknownArgument
  else .invalidSubcommand

/-- Read an argument that is no option. -/
def readOperand (grammar : Grammar) (progress : Progress) (argument : String) :
    Except Fault Progress :=
  match progress.operands with
  | [] => .error (grammar.surplus progress argument)
  | item :: rest => do
    let progress ← progress.settlePending
    return { progress with pending := some (item, [argument]), operands := rest }

/-- Read one argument. -/
def readArgument (grammar : Grammar) (progress : Progress) (argument : String) :
    Except Fault Progress :=
  if progress.escaped then grammar.readOperand progress argument
  else
    match argument.toList with
    | ['-', '-'] => .ok { progress with escaped := true }
    | '-' :: '-' :: long => grammar.readLong progress long
    | '-' :: c :: shorts => grammar.readShorts progress (c :: shorts)
    | _ =>
      match progress.awaiting, progress.pending with
      | true, some (item, values) =>
        .ok { progress with pending := some (item, values ++ [argument]), awaiting := false }
      | _, _ => grammar.readOperand progress argument

/-- An argument names a subcommand: it is not the value of an option and does not follow `--`. -/
def isSubcommand (grammar : Grammar) (progress : Progress) (argument : String) : Bool :=
  !progress.escaped && !progress.awaiting && grammar.subcommands.contains argument

/-- Read arguments up to a subcommand. The result has the name of the subcommand, if one was met,
and the arguments after it. -/
def readUpToSubcommand (grammar : Grammar) (progress : Progress) :
    List String → Except Fault (Progress × Option (String × List String))
  | [] => .ok (progress, none)
  | argument :: rest =>
    if grammar.isSubcommand progress argument then .ok (progress, some (argument, rest))
    else
      match grammar.readArgument progress argument with
      | .error fault => .error fault
      | .ok progress => readUpToSubcommand grammar progress rest

/-- Settle what is left at the end of the line. -/
def finish (progress : Progress) : Except Fault Findings := do
  let progress ← progress.settlePending
  if progress.operands.isEmpty then return progress.findings
  else .error .missingRequiredArgument

/-- Read a whole line. `continue` reads what follows a subcommand; its faults come first. -/
def read {α : Type} (grammar : Grammar) (subcommand : String → List String → Except Fault α)
    (arguments : List String) : Except Fault (Findings × Option α) := do
  let (progress, met) ←
    grammar.readUpToSubcommand { operands := grammar.operands } arguments
  let result ← met.mapM fun (name, rest) => subcommand name rest
  return (← finish progress, result)

end Grammar

end OverlayStore.CommandLine
