import OverlayStore.Json
import OverlayStore.Number.Stepwise

/-!
# Data

The values that settings are read from and written to, whatever the notation: whole numbers, real
numbers, truth values, texts, lists and tables.
-/

namespace OverlayStore

/-- A value in some notation for settings. -/
inductive Datum where
  /-- Nothing at all. -/
  | nothing
  | whole (value : Int)
  | real (value : Float)
  | flag (value : Bool)
  | text (value : String)
  | list (items : List Datum)
  /-- A table; a closed one has been written as a single value and must be used as a whole. -/
  | table (closed : Bool) (entries : List (String × Datum))
  deriving Inhabited

namespace Datum

/-- The whole number of 64 bits. -/
def nat? : Datum → Option Nat
  | .whole value => if 0 ≤ value ∧ value ≤ Number.maxWhole then some value.toNat else none
  | _ => none

/-- The number in single precision, whether it is written as a whole or as a real number. -/
def single? : Datum → Option Float32
  | .whole value => some (Number.singleOf (value < 0) (Number.single.round value.natAbs 1))
  | .real value => some value.toFloat32
  | _ => none

/-- The truth value. -/
def flag? : Datum → Option Bool
  | .flag value => some value
  | _ => none

/-- The text. -/
def text? : Datum → Option String
  | .text value => some value
  | _ => none

/-- The texts of a list of texts. -/
def texts? : Datum → Option (List String)
  | .list items => items.mapM text?
  | _ => none

/-- There is nothing in the list or table. -/
def isEmptyCollection : Datum → Bool
  | .list items => items.isEmpty
  | .table _ entries => entries.isEmpty
  | _ => false

/-- What a JSON numeral denotes. A whole number outside the 64-bit range and a negative zero are
real numbers, which are read step by step. There is nothing in place of a number beyond all finite
real numbers. -/
def ofNumeral (spelling : String) : Datum :=
  let (negative, digits) := Number.splitSign spelling.toList
  let value := Number.digitsValue digits
  if digits.all Char.isDigit && !negative && value ≤ Number.maxWhole then .whole value
  else if digits.all Char.isDigit && negative && value > 0 && value ≤ Nat.pow 2 63 then
    .whole (-(value : Int))
  else
    match Number.Stepwise.ofChars? digits with
    | some value => .real (if negative then -value else value)
    | none => .nothing

mutual

/-- The value of a JSON value. -/
def ofJson : Json → Datum
  | .null => .nothing
  | .bool value => .flag value
  | .number spelling => ofNumeral spelling
  | .string value => .text value
  | .array items => .list (ofItems items)
  | .object members => .table true (ofMembers members)
  | .unusable => .nothing

/-- The values of the items of an array. -/
def ofItems : List Json → List Datum
  | [] => []
  | item :: rest => ofJson item :: ofItems rest

/-- The values of the members of an object. -/
def ofMembers : List (String × Json) → List (String × Datum)
  | [] => []
  | (name, value) :: rest => (name, ofJson value) :: ofMembers rest

end

end Datum

end OverlayStore
