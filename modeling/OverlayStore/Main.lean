import OverlayStore.Program

/-!
# The command

The outermost layer of the program: it gathers what a run may ask for, carries the run out, and
writes what the run leaves.
-/

namespace OverlayStore.Program

/-- The words of the operating system for a failure, with its number. -/
def describe (failure : IO.Error) : String :=
  match failure with
  | .noFileOrDirectory _ code details | .permissionDenied _ code details
  | .inappropriateType _ code details | .invalidArgument _ code details =>
    s!"{details} (os error {code})"
  | _ => toString failure

/-- Read a file. -/
def readFile (path : String) : IO (Except Config.Error Bytes) := do
  try
    let content ← IO.FS.withFile path .read fun handle => handle.readBinToEnd
    return .ok content.toList
  catch failure => return .error (.fileRead (describe failure))

/-- Gather what a run with some arguments may ask for. -/
def surroundings (arguments : List String) : IO World := do
  let settings ← variableNames.filterMapM fun name => do
    return (← IO.getEnv name).map fun value => (name, value)
  let files ← (paths arguments).mapM fun path => do
    return (path, ← readFile path)
  return {
    environment := fun name => settings.lookup name
    read := fun path => (files.lookup path).getD (.error Config.missingFile)
    now := (← IO.monoNanosNow) }

end OverlayStore.Program

open OverlayStore in
/-- Run the command: errors come first, then what is printed, then what is logged. -/
def main (arguments : List String) : IO UInt32 := do
  let outcome := Program.run (← Program.surroundings arguments) arguments
  IO.eprint outcome.err
  IO.print outcome.out
  (outcome.lines (outcome.events.take 1)).forM fun line => IO.println line
  for _ in [0:outcome.seconds] do IO.sleep 1000
  (outcome.lines (outcome.events.drop 1)).forM fun line => IO.println line
  return UInt32.ofNat outcome.exit
