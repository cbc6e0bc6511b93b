import OverlayStore.Datum
import OverlayStore.Toml.Quoted

/-!
# Writing documents

A document of named tables. Each table has its name in brackets on a line of its own and one line
for each entry; tables are separated by an empty line. A list with several items has one item a
line. Whole numbers beyond the signed 64-bit range cannot be written.
-/

namespace OverlayStore.Toml

/-- A real number in positional notation, with a point. -/
def realText (value : Float) : String :=
  let text := Number.doubleToText value
  if value.isNaN then "nan"
  else if value.isInf then text
  else if text.contains '.' then text else text ++ ".0"

/-- A list from the texts of its items. -/
def listText (items : List String) : String :=
  match items with
  | [] => "[]"
  | [item] => "[" ++ item ++ "]"
  | _ => "[\n" ++ String.join (items.map fun item => "    " ++ item ++ ",\n") ++ "]"

/-- A value other than a table. -/
def valueText? : Datum → Option String
  | .whole value => if value < Nat.pow 2 63 then some (toString value) else none
  | .real value => some (realText value)
  | .flag value => some (if value then "true" else "false")
  | .text value => some (quote value)
  | .list items => (items.mapM fun (item : Datum) => item.text?.map quote).map listText
  | _ => none

/-- The line of an entry. -/
def entryText? (entry : String × Datum) : Option String :=
  (valueText? entry.2).map fun value => entry.1 ++ " = " ++ value ++ "\n"

/-- A table under its name. -/
def tableText? (table : String × Datum) : Option String :=
  match table.2 with
  | .table _ entries =>
    (entries.mapM entryText?).map fun lines => "[" ++ table.1 ++ "]\n" ++ String.join lines
  | _ => none

/-- A document of tables. -/
def documentText? (tables : List (String × Datum)) : Option String :=
  (tables.mapM tableText?).map fun texts => "\n".intercalate texts

end OverlayStore.Toml
