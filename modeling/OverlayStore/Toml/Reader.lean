import OverlayStore.Toml.Syntax
import OverlayStore.Toml.Tree

/-!
# Reading documents

Lists and inline tables, and the lines of a document: headers of tables, headers of lists of
tables, and entries. The entries after a header belong to its table, which is put in its place when
the next header begins.
-/

namespace OverlayStore.Toml

mutual

/-- Read a value inside `depth` lists and inline tables. -/
def readValue : Nat → Nat → Reader Datum
  | 0, _, _ => none
  | fuel + 1, depth, text =>
    match text with
    | '[' :: rest =>
      if depth + 1 ≥ depthLimit then none
      else (readItems fuel (depth + 1) [] (skipBetween rest)).map fun (items, rest) =>
        (.list items, rest)
    | '\x7b' :: rest =>
      if depth + 1 ≥ depthLimit then none
      else
        match skipSpaces rest with
        | '\x7d' :: rest => some (.table true [], rest)
        | rest => (readPairs fuel (depth + 1) {} rest).map fun (table, rest) =>
          (.table true (entryData table.entries), rest)
    | _ => readScalar text

/-- Read the items of a list up to its closing bracket. -/
def readItems : Nat → Nat → List Datum → Reader (List Datum)
  | 0, _, _, _ => none
  | fuel + 1, depth, done, text =>
    match text with
    | ']' :: rest => some (done.reverse, rest)
    | _ =>
      match readValue fuel depth text with
      | none => none
      | some (item, rest) =>
        match skipBetween rest with
        | ',' :: rest => readItems fuel depth (item :: done) (skipBetween rest)
        | ']' :: rest => some ((item :: done).reverse, rest)
        | _ => none

/-- Read the entries of an inline table up to its closing brace. -/
def readPairs : Nat → Nat → Table → Reader Table
  | 0, _, _, _ => none
  | fuel + 1, depth, table, text =>
    match readKey text with
    | none => none
    | some (key, rest) =>
      match splitKey key, rest with
      | some (path, name), '=' :: rest =>
        match readValue fuel depth (skipSpaces rest) with
        | none => none
        | some (value, rest) =>
          match table.insert path name value with
          | none => none
          | some table =>
            match skipSpaces rest with
            | ',' :: rest => readPairs fuel depth table rest
            | '\x7d' :: rest => some (table, rest)
            | _ => none
      | _, _ => none

end

/-- A document whose lines have been read so far. -/
structure Document where
  /-- The table of the whole document, without the table of the last header. -/
  root : Table := {}
  /-- The table of the last header, or the first entries of the document. -/
  current : Table := {}
  /-- The key of the last header. -/
  key : List String := []
  /-- The last header adds to a list of tables. -/
  listed : Bool := false

namespace Document

/-- Put the table of the last header in its place. -/
def settled? (document : Document) : Option Table :=
  match splitKey document.key with
  | none => some document.current
  | some (path, name) =>
    document.root.descend false (fun parent =>
      match parent.find? name, document.listed with
      | none, true => some (parent.put name (.tables [document.current.entries]))
      | some (.tables items), true =>
        some (parent.put name (.tables (document.current.entries :: items)))
      | none, false => some (parent.put name document.current.node)
      | _, _ => none) path

/-- Begin the table of a header. A table that has only been passed through is taken up again. -/
def beginTable? (document : Document) (key : List String) : Option Document := do
  let root ← document.settled?
  let (path, name) ← splitKey key
  let find (parent : Table) : Option Table :=
    match parent.find? name with
    | none => some {}
    | some (.table true false entries) => some { entries }
    | _ => none
  let root ← root.descend false (fun parent => (find parent).map fun _ => parent) path
  let taken := takeUp path name root
  let root ← root.descend false (fun parent => some (parent.drop name)) path
  return { root, current := { entries := taken }, key, listed := false }
where
  /-- The entries of the table under a key, if there is one. -/
  takeUp (path : List String) (name : String) (table : Table) : List (String × Node) :=
    match path with
    | [] =>
      match table.find? name with
      | some (.table _ _ entries) => entries
      | _ => []
    | first :: rest =>
      match table.find? first with
      | some (.table _ _ entries) => takeUp rest name { entries }
      | some (.tables (last :: _)) => takeUp rest name { entries := last }
      | _ => []

/-- Begin one more table of a list of tables. -/
def beginListed? (document : Document) (key : List String) : Option Document := do
  let root ← document.settled?
  let (path, name) ← splitKey key
  let root ← root.descend false (fun parent =>
    match parent.find? name with
    | none => some parent
    | some (.tables _) => some parent
    | _ => none) path
  return { root, current := {}, key, listed := true }

/-- Add an entry to the table of the last header. -/
def addEntry? (document : Document) (key : List String) (value : Datum) : Option Document := do
  let (path, name) ← splitKey key
  let current ← document.current.insert path name value
  return { document with current }

end Document

/-- Read a line of a document and the line break after it. -/
def readLine (document : Document) : Reader Document := fun text =>
  match skipSpaces text with
  | '[' :: '[' :: rest => do
    let (key, rest) ← readKey rest
    match rest with
    | ']' :: ']' :: rest =>
      let rest ← readLineEnd rest
      let document ← document.beginListed? key
      return (document, rest)
    | _ => none
  | '[' :: rest => do
    let (key, rest) ← readKey rest
    match rest with
    | ']' :: rest =>
      let rest ← readLineEnd rest
      let document ← document.beginTable? key
      return (document, rest)
    | _ => none
  | text =>
    match readLineEnd text with
    | some rest => some (document, rest)
    | none => do
      let (key, rest) ← readKey text
      match rest with
      | '=' :: rest =>
        let (value, rest) ← readValue (rest.length + 1) 0 (skipSpaces rest)
        let rest ← readLineEnd rest
        let document ← document.addEntry? key value
        return (document, rest)
      | _ => none

/-- Read the lines of a document. -/
def readLines : Nat → Document → List Char → Option Document
  | 0, _, _ => none
  | _ + 1, document, [] => some document
  | fuel + 1, document, text =>
    match readLine document text with
    | some (document, rest) => readLines fuel document rest
    | none => none

/-- The table that a document describes. A byte order mark may come first. -/
def read? (text : String) : Option Datum := do
  let chars := text.toList
  let chars :=
    match chars with
    | c :: rest => if c.toNat = 0xFEFF then rest else chars
    | [] => []
  let document ← readLines (chars.length + 1) {} chars
  let root ← document.settled?
  return .table false (entryData root.entries)

end OverlayStore.Toml
