import OverlayStore.Datum

/-!
# Tables under construction

A document is read line by line, and its tables grow meanwhile. Names in a key lead from table to
table. A table that has only been passed through on the way to another one may still get a header
of its own; a table that has one, and a table made by a key with several names, may not.
-/

namespace OverlayStore.Toml

/-- A node of a document under construction. -/
inductive Node where
  /-- A finished value. -/
  | leaf (value : Datum)
  /-- A table: whether it has only been passed through, whether a key with several names made it,
  and its entries. -/
  | table (passed dotted : Bool) (entries : List (String × Node))
  /-- A list of tables, the last one first. -/
  | tables (items : List (List (String × Node)))
  deriving Inhabited

/-- The entries of a table and how it came to be. -/
structure Table where
  /-- The table has only been passed through. -/
  passed : Bool := false
  /-- A key with several names made the table. -/
  dotted : Bool := false
  /-- The entries, in order of appearance. -/
  entries : List (String × Node) := []
  deriving Inhabited

namespace Table

/-- The table as a node. -/
def node (table : Table) : Node :=
  .table table.passed table.dotted table.entries

/-- The entry of a name. -/
def find? (table : Table) (name : String) : Option Node :=
  table.entries.lookup name

/-- The table with an entry set, at its old place or at the end. -/
def put (table : Table) (name : String) (node : Node) : Table :=
  if (table.find? name).isSome then
    { table with
      entries := table.entries.map fun entry => if entry.1 == name then (name, node) else entry }
  else { table with entries := table.entries ++ [(name, node)] }

/-- The table without an entry. -/
def drop (table : Table) (name : String) : Table :=
  { table with entries := table.entries.filter fun entry => entry.1 != name }

/-- Change the table to which the names lead. Missing tables are made on the way, and a list of
tables leads to its last one. A key with several names passes only through tables that have no
header of their own. -/
def descend (dotted : Bool) (change : Table → Option Table) : List String → Table → Option Table
  | [], table => change table
  | name :: names, table =>
    match table.find? name with
    | none => do
      let sub ← descend dotted change names { passed := true, dotted }
      return table.put name sub.node
    | some (.leaf _) => none
    | some (.table passed subDotted entries) =>
      if dotted && !passed then none
      else do
        let sub ← descend dotted change names { passed, dotted := subDotted, entries }
        return table.put name sub.node
    | some (.tables (last :: before)) => do
      let sub ← descend dotted change names { entries := last }
      return table.put name (.tables (sub.entries :: before))
    | some (.tables []) => none

/-- Add an entry under a key. Names may not repeat, and a key with several names ends in a table
that was made by such a key. -/
def insert (table : Table) (path : List String) (name : String) (value : Datum) : Option Table :=
  descend true (fun target =>
    if target.dotted == path.isEmpty || (target.find? name).isSome then none
    else some (target.put name (.leaf value))) path table

end Table

mutual

/-- The value of a node. -/
def Node.datum : Node → Datum
  | .leaf value => value
  | .table _ _ entries => .table false (entryData entries)
  | .tables items => .list (tableData items).reverse

/-- The values of entries. -/
def entryData : List (String × Node) → List (String × Datum)
  | [] => []
  | (name, node) :: rest => (name, node.datum) :: entryData rest

/-- The values of tables. -/
def tableData : List (List (String × Node)) → List Datum
  | [] => []
  | entries :: rest => .table false (entryData entries) :: tableData rest

end

/-- The parts of a key: the names that lead to the table, and the name in it. -/
def splitKey : List String → Option (List String × String)
  | [] => none
  | [name] => some ([], name)
  | name :: rest => (splitKey rest).map fun (path, last) => (name :: path, last)

end OverlayStore.Toml
