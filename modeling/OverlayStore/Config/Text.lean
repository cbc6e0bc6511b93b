import OverlayStore.Config.Fields
import OverlayStore.Text.Utf8
import OverlayStore.Toml.Document
import OverlayStore.Toml.Reader

/-!
# The text of settings

Settings as a TOML document of two tables. What is read is checked; what is written may be settings
that would not pass the check.
-/

namespace OverlayStore.Config

/-- The text of the settings. -/
def toText (config : Config) : Except Error String :=
  match Toml.documentText? (Field.writeRecord (sections false) config) with
  | some text => .ok text
  | none => .error (.serialize "out-of-range value for u64 type")

/-- The settings that a text describes. -/
def ofText (text : String) : Except Error Config :=
  match Toml.read? text with
  | none => .error (.parse "")
  | some document =>
    match ofDatum document with
    | .ok config => config.validated
    | .error .unreadable => .error (.parse "")
    | .error .overrun => .error .overrun

/-- The settings that the bytes of a file describe. -/
def ofFile (content : Bytes) : Except Error Config :=
  match Text.Utf8.decode content with
  | .ok text => ofText text
  | .error _ => .error (.fileRead "stream did not contain valid UTF-8")

/-- Write settings and read the text again: do the settings read have the text of those written? -/
def readsBack (config : Config) : Except Error Bool := do
  let text ← config.toText
  let again ← ofFile (Bytes.ofText text)
  return again.toText.toOption = some text

/-- What the operating system says about a file that is not there. -/
def missingFile : Error := .fileRead "No such file or directory (os error 2)"

/-- What the operating system says about a directory in place of a file. -/
def directoryFile : Error := .fileRead "Is a directory (os error 21)"

/-- What the operating system says about a path that enters a file. -/
def notADirectory : Error := .fileRead "Not a directory (os error 20)"

/-- What the operating system says about a path, or a name in it, that has too many bytes. -/
def nameTooLong : Error := .fileRead "File name too long (os error 36)"

/-- What is said about a path with a zero byte, before the operating system is asked. -/
def zeroInPath : Error := .fileRead "file name contained an unexpected NUL byte"

/-- What the operating system says about a file in a directory that is not there. -/
def missingDirectory : Error := .fileWrite "No such file or directory (os error 2)"

end OverlayStore.Config
