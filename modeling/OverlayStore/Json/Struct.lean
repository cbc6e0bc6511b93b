import OverlayStore.Json

/-!
# Records in JSON

A record with named fields is written as an object, or as an array that lists the fields in their
fixed order. Reading one finds each field's value, if it is there. Members with other names are
ignored, and a field that is given twice makes the record unreadable, as does an array that is too
long.
-/

namespace OverlayStore.Json

/-- The value of the only member with a name: `none` if the name is repeated. -/
def onlyMember? (members : List (String × Json)) (name : String) : Option (Option Json) :=
  match members.filter fun member => member.1 == name with
  | [] => some none
  | [(_, value)] => some (some value)
  | _ => none

/-- The values of the named fields, in the order of the names. -/
def structFields? (names : List String) : Json → Option (List (Option Json))
  | .object members => names.mapM (onlyMember? members)
  | .array items =>
    if items.length ≤ names.length then
      some (items.map some ++ List.replicate (names.length - items.length) none)
    else none
  | _ => none

end OverlayStore.Json
