import OverlayStore.Error
import OverlayStore.Text.Utf8
import OverlayStore.Value.Type

/-!
# Values

A value is a type, a version and a payload of at most 65535 bytes. A value without payload stands
for the deletion of what its creator has stored before.
-/

namespace OverlayStore

/-- The version of a value's format. -/
structure Version where
  /-- The number that changes when old readers no longer understand the format. -/
  major : UInt8
  /-- The number that changes otherwise. -/
  minor : UInt8
  deriving DecidableEq, Repr

namespace Version

/-- The text of a version. -/
def toText (version : Version) : String :=
  s!"{version.major.toNat}.{version.minor.toNat}"

/-- Compare two versions, the major number first. -/
def compare (a b : Version) : Ordering :=
  (Ord.compare a.major.toNat b.major.toNat).then (Ord.compare a.minor.toNat b.minor.toNat)

end Version

/-- The greatest number of bytes of a payload. -/
def maxPayload : Nat := 65535

/-- A typed and versioned payload. -/
structure Value where
  /-- The type. -/
  type : ValueType
  /-- The version. -/
  version : Version
  /-- The bytes. -/
  payload : Bytes
  /-- The payload is short enough for its length to be written in two bytes. -/
  payload_le : payload.length ≤ maxPayload
  deriving DecidableEq

namespace Value

/-- The value with these parts, unless the payload is too long. -/
def new (type : ValueType) (version : Version) (payload : Bytes) : Except Error Value :=
  if h : payload.length ≤ maxPayload then .ok ⟨type, version, payload, h⟩
  else .error (.encode s!"payload of {payload.length} bytes exceeds maximum {maxPayload}")

/-- The empty value: the wildcard type, version zero and no payload. -/
def empty : Value := ⟨.any, ⟨0, 0⟩, [], by decide⟩

instance : Inhabited Value := ⟨empty⟩

/-- The value of the test type with a text as its payload, the empty value if that is too long. -/
def sample (text : String) : Value :=
  match new .test ⟨1, 0⟩ (Bytes.ofText text) with
  | .ok value => value
  | .error _ => empty

/-- The number of bytes of the payload. -/
def size (value : Value) : Nat := value.payload.length

/-- The value has no payload, so it deletes. -/
def isEmpty (value : Value) : Bool := value.payload.isEmpty

/-- Two values are the same: equal type codes, versions and payloads. -/
def same (a b : Value) : Bool :=
  a.type.code = b.type.code && a.version = b.version && a.payload = b.payload

/-- The text of a value, given the name of its type. The payload of a text is shown, that of any
other value is counted. -/
def toText (name : String) (value : Value) : String :=
  if value.isEmpty then "<empty>"
  else
    let head := s!"{value.type.toText name} v{value.version.toText} "
    match Text.Utf8.decode? value.payload with
    | some text =>
      if value.type.code = ValueType.textCode then head ++ "\"" ++ text ++ "\""
      else head ++ s!"{value.size} bytes"
    | none => head ++ s!"{value.size} bytes"

/-- The text of a value for those who look for mistakes. -/
def debugText (name : String) (value : Value) : String :=
  let version := "Version \x7b major: " ++ toString value.version.major.toNat ++ ", minor: " ++
    toString value.version.minor.toNat ++ " \x7d"
  "DhtValue \x7b type: ValueType(" ++ value.type.toText name ++ "), version: " ++ version ++
    ", size: " ++ toString value.size ++ " \x7d"

end Value

end OverlayStore
