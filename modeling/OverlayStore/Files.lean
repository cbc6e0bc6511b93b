import OverlayStore.Config.Text

/-!
# The files of a directory

Files by name, and how a path finds one of them. A path is followed step by step from the directory
or, if it begins with a slash, from the root of the file system. Of what is outside the directory
only little is known: the common directories at the root, and the device without content.
-/

namespace OverlayStore

/-- The files of a directory that has no subdirectories. -/
abbrev Files := List (String × Bytes)

namespace Files

/-- Where a path has led so far. -/
inductive Spot where
  /-- The directory with the files. -/
  | here
  /-- A directory outside that is known by its path from the root. -/
  | known (path : List String)
  /-- Any other directory. -/
  | elsewhere
  /-- A file. -/
  | file (content : Bytes)

/-- The directories at the root that every system has. -/
def commonDirectories : List String := ["bin", "dev", "etc", "proc", "root", "tmp", "usr", "var"]

/-- The device that is always empty. -/
def emptyDevice : List String := ["dev", "null"]

/-- What is under a name in a known directory. -/
def enterKnown (path : List String) (name : String) : Except Config.Error Spot :=
  let path := path ++ [name]
  if path = emptyDevice then .ok (.file [])
  else if path.length = 1 ∧ commonDirectories.contains name then .ok (.known path)
  else .error Config.missingFile

/-- The greatest number of bytes in a name. -/
def nameLimit : Nat := 255

/-- Take one step of a path. A file cannot be entered like a directory. An empty step leads
nowhere. -/
def enter (files : Files) (spot : Spot) (name : String) : Except Config.Error Spot :=
  match spot with
  | .file _ => .error Config.notADirectory
  | spot =>
    if name = "" ∨ name = "." then .ok spot
    else if name = ".." then
      match spot with
      | .known path => .ok (.known path.dropLast)
      | _ => .ok .elsewhere
    else if name.utf8ByteSize > nameLimit then .error Config.nameTooLong
    else
      match spot with
      | .here => (files.lookup name).elim (.error Config.missingFile) fun content =>
          .ok (.file content)
      | .known path => enterKnown path name
      | _ => .error Config.missingFile

/-- The greatest number of bytes in a path. -/
def pathLimit : Nat := 4095

/-- Read the file at a path. -/
def read (files : Files) (path : String) : Except Config.Error Bytes := do
  if path.contains '\x00' then throw Config.zeroInPath
  if path.isEmpty then throw Config.missingFile
  if path.utf8ByteSize > pathLimit then throw Config.nameTooLong
  let start := if path.startsWith "/" then .known [] else .here
  match ← (path.splitOn "/").foldlM (enter files) start with
  | .file content => return content
  | _ => throw Config.directoryFile

end Files

end OverlayStore
