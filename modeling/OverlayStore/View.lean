import OverlayStore.Bag
import OverlayStore.CommandLine
import OverlayStore.Patience
import OverlayStore.Config.Fields
import OverlayStore.Publication

/-!
# Views

Values, records, bags, receipts, settings and command lines as JSON, for those who look into a node.
Bytes are shown in hexadecimal, long ones by their number and their key. Single-precision numbers
are shown exactly, by their bits. Types are shown with the names that they have now, which the
caller knows.
-/

namespace OverlayStore

/-- The greatest number of bytes that are shown in full. -/
def Bytes.shownInFull : Nat := 64

/-- The view of some bytes. -/
def Bytes.view (bytes : Bytes) : Json :=
  if bytes.length ≤ shownInFull then .string bytes.toHex
  else .object [("len", .nat bytes.length), ("hash", .string (Key.ofContent bytes).toHex)]

/-- The view of an order is its name. -/
def View.ofOrder : Ordering → Json
  | .lt => .string "Less"
  | .eq => .string "Equal"
  | .gt => .string "Greater"

/-- The kinds and the wordings of all errors that can be reported, for one reason and one name. -/
def View.ofErrors (key why : String) : List (String × String) :=
  (Error.all why).map (fun error => (error.kind, error.message)) ++
    (Config.Error.all key why).map (fun error => (error.kind, error.message)) ++
    (Log.Error.all why).map fun error => (error.kind, error.message)

/-- The view of a contact is its text. -/
def Contact.view (contact : Contact) : Json := .string contact.toText

/-- The view of a list of contacts. -/
def Contact.views (contacts : List Contact) : Json := .array (contacts.map Contact.view)

/-- The view of a value, given the names of types. -/
def Value.view (names : ValueType → String) (value : Value) : Json :=
  .array [.string (value.type.toText (names value.type)), .string value.version.toText,
    value.payload.view]

/-- The view of a record. Its time is counted from a given one. -/
def Record.view (names : ValueType → String) (start : Time) (record : Record) : Json :=
  .object [("primary", .string record.key.toHex), ("secondary", .string record.secondary.toHex),
    ("creator", record.creator.view), ("sender", record.sender.view),
    ("value", record.value.view names), ("local", .bool record.isLocal),
    ("direct", .bool record.isDirect), ("created", .string (toString (record.created - start)))]

/-- The view of a bag. -/
def Bag.view (names : ValueType → String) (start : Time) (bag : Bag) : Json :=
  let records := Record.sort bag.toList
  .object [("primary", .string bag.key.toHex), ("len", .nat bag.size),
    ("empty", .bool bag.isEmpty),
    ("creators", .array (records.map fun record => .string record.secondary.short)),
    ("entities", .array (records.map (Record.view names start)))]

/-- The view of a receipt. -/
def Receipt.view (receipt : Receipt) : Json :=
  .object [("key", .string receipt.key.short), ("count", .nat receipt.count),
    ("locations", Contact.views receipt.locations), ("failed", Contact.views receipt.failed)]

/-- The view of a stamp: its time, counted from a given one, and its number of locations. -/
def Stamp.view (start : Time) (stamp : Stamp) : List Json :=
  [stamp.time.elim .null fun time => .string (toString (time - start)), .nat stamp.locations]

/-- The view of a single-precision number: its bits in hexadecimal. -/
def Number.singleView (value : Float32) : Json :=
  .string ("0x" ++ Bytes.hexOfWord32 (Number.singleBits value))

/-- The view of the value of a field; settings hold no lists and tables. -/
def Datum.view : Datum → Json
  | .whole value => .int value
  | .real value => Number.singleView value.toFloat32
  | .flag value => .bool value
  | .text value => .string value
  | _ => .null

/-- The view of storage settings. -/
def Config.Storage.view (settings : Config.Storage) : Json :=
  .object ((Config.Field.writeRecord Config.storageFields settings).map fun (name, value) =>
    (name, value.view))

/-- The view of a line of a demo's report. -/
def Demo.Line.view (line : Demo.Line) : Json :=
  .object (line.fields.map fun (name, text) => (name, .string text))

/-- The view of how a wait ended. -/
def Patience.Outcome.view (outcome : Patience.Outcome) : Json :=
  .object [("held", .bool outcome.held), ("waited_ms", .nat outcome.waited),
    ("polls", .nat outcome.polls)]

/-- The view of a command: its name, with its operands if it takes any. -/
def CommandLine.Command.view : CommandLine.Command → Json
  | .config => .string "config"
  | .validate path => .object [("validate", .string path)]
  | .demo plan => .object [("demo", .array [.nat plan.seconds, .nat plan.peers, .nat plan.values])]

/-- The view of the arguments of the command. -/
def CommandLine.Arguments.view (arguments : CommandLine.Arguments) : Json :=
  .object [("log_level", arguments.logLevel.elim .null .string),
    ("log_directives", .array (arguments.logDirectives.map .string)),
    ("json_logs", .bool arguments.jsonLogs),
    ("config", arguments.configPath.elim .null .string),
    ("command", arguments.command.elim .null CommandLine.Command.view)]

end OverlayStore
