import OverlayStore.Contact
import OverlayStore.Duration
import OverlayStore.Value

/-!
# Records

A record binds a value to the key it is stored under, to the contact that created it and to the one
that sent it. A record is identified by two keys: the primary one it is stored under, and the
secondary one, which is the identifier of its creator.
-/

namespace OverlayStore

/-- A value as it is stored. -/
structure Record where
  /-- Who created the value. -/
  creator : Contact
  /-- Who delivered it. -/
  sender : Contact
  /-- The key that the value is stored under. -/
  key : Key
  /-- The value. -/
  value : Value
  /-- When the record was made. -/
  created : Time
  /-- The record was made by this node for itself. -/
  isLocal : Bool
  deriving DecidableEq

namespace Record

/-- The key of the record among those stored under the same primary key. -/
def secondary (record : Record) : Key := record.creator.id

/-- The creator delivered the record itself. -/
def isDirect (record : Record) : Bool :=
  record.creator.id = record.sender.id

/-- A record that a node makes for itself. -/
def own (node : Contact) (key : Key) (value : Value) (now : Time) : Record :=
  ⟨node, node, key, value, now, true⟩

/-- A record that its creator delivered. -/
def direct (creator : Contact) (key : Key) (value : Value) (created : Time) : Record :=
  ⟨creator, creator, key, value, created, false⟩

/-- Two records are about the same thing: both keys are equal. -/
def same (a b : Record) : Bool :=
  a.key = b.key && a.secondary = b.secondary

/-- The first record does not come after the second in the order of their two keys. -/
def notAfter (a b : Record) : Bool :=
  if a.key = b.key then a.secondary.notAfter b.secondary else a.key.notAfter b.key

/-- Records in the order of their two keys. -/
def sort (records : List Record) : List Record :=
  records.mergeSort notAfter

/-- The keys and the payload of a record in brief. -/
def brief (record : Record) : String :=
  s!"{record.key.short}/{record.secondary.short}={Bytes.toHex record.value.payload}"

/-- The text of a record, given the name of its value's type. -/
def toText (name : String) (record : Record) : String :=
  let place := if record.isLocal then "local" else "remote"
  let way := if record.isDirect then ", direct" else ""
  s!"{record.key.short}/{record.secondary.short} from {record.sender.toText} ({place}{way}): " ++
    record.value.toText name

end Record

end OverlayStore
