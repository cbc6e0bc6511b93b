import OverlayStore.Contact
import OverlayStore.Json.Struct

/-!
# Keys and contacts in JSON

A key is an array of its twenty byte values. A contact is a record of its identifier and the text
of its address.
-/

namespace OverlayStore

/-- The value of a byte: a whole number below 256. -/
def Json.byte? (value : Json) : Option UInt8 :=
  (value.nat?.filter (· < 256)).map UInt8.ofNat

namespace Key

/-- The array of the byte values. -/
def toJson (key : Key) : Json :=
  .array (key.bytes.map fun byte => .nat byte.toNat)

/-- The key that an array of twenty byte values denotes. -/
def ofJson? (value : Json) : Option Key := do
  let items ← value.items?
  let bytes ← items.mapM Json.byte?
  (ofBytes bytes).toOption

end Key

namespace Contact

/-- The record of the contact. -/
def toJson (contact : Contact) : Json :=
  .object [("node_id", contact.id.toJson), ("address", .string contact.address.toText)]

/-- The contact that a record denotes. Both fields are required. -/
def ofJson? (value : Json) : Option Contact := do
  match ← Json.structFields? ["node_id", "address"] value with
  | [some id, some address] =>
    let id ← Key.ofJson? id
    let address ← Net.Address.ofText? (← address.text?)
    return ⟨id, address⟩
  | _ => none

end Contact

end OverlayStore
