import OverlayStore.Admission
import OverlayStore.Metrics

/-!
# The database

The records that a node holds, its own and those it keeps for others, in bags by primary key. The
database counts its records, and the remote ones by IPv4 address and by network, while it changes.
Storing an empty value deletes. Each operation reports what it measured.
-/

namespace OverlayStore

/-- The records of a node. -/
structure Database where
  /-- The fixed limits. -/
  limits : FloodLimits := {}
  /-- How request loads are averaged. -/
  loadRule : LoadRule := {}
  /-- The policy that has the last word on admission. -/
  policy : Option Admission.Policy := none
  /-- The bags by primary key. -/
  bags : Table Key Bag := .empty
  /-- The number of records. -/
  valueCount : Nat := 0
  /-- The number of remote records from each IPv4 address that has any. -/
  perAddress : Table UInt32 Nat := .empty
  /-- The number of remote records from each /24 network that has any. -/
  perNetwork : Table UInt32 Nat := .empty

namespace Database

instance : Inhabited Database := ⟨{}⟩

/-- A database as the settings ask for, without a policy. -/
def ofSettings (settings : Config.Storage) : Database where
  limits := .ofSettings settings
  loadRule := ⟨settings.loadSmoothing, settings.loadNullingDelay⟩

/-- What an operation answers, leaves behind and has measured. -/
structure Outcome (α : Type) where
  /-- The answer. -/
  result : α
  /-- The database afterwards. -/
  database : Database
  /-- What was measured, in order. -/
  updates : List Metric.Update

/-! ## Looking -/

/-- The number of primary keys. -/
def keyCount (db : Database) : Nat := db.bags.size

/-- The bag of a primary key. -/
def bag? (db : Database) (key : Key) : Option Bag := db.bags.find? key

/-- The record under a primary and a secondary key. -/
def find? (db : Database) (key secondary : Key) : Option Record :=
  (db.bag? key).bind fun bag => bag.find? secondary

/-- There is a record under a primary and a secondary key. -/
def contains (db : Database) (key secondary : Key) : Bool :=
  (db.find? key secondary).isSome

/-- The primary keys, in no meaningful order. -/
def keys (db : Database) : List Key := db.bags.keys

/-- All records, in no meaningful order. -/
def records (db : Database) : List Record := db.bags.values.flatMap Bag.toList

/-- The number of remote records that are charged like a record. -/
def chargedLike (counts : Table UInt32 Nat) (mask : UInt32) (record : Record) : Nat :=
  ((record.charge mask).bind counts.find?).getD 0

/-- The number of remote records from the address of a record's creator. -/
def valuesPerAddress (db : Database) (record : Record) : Nat :=
  chargedLike db.perAddress Contact.addressMask record

/-- The number of remote records from the network of a record's creator. -/
def valuesPerNetwork (db : Database) (record : Record) : Nat :=
  chargedLike db.perNetwork Contact.networkMask record

/-- What admission policies see of the database. -/
def view (db : Database) : Admission.View where
  keyCount := db.keyCount
  valueCount := db.valueCount
  contains := db.contains
  perAddress := db.valuesPerAddress
  perNetwork := db.valuesPerNetwork

/-! ## Counting -/

/-- Count one more for an address or network. -/
def countUp (counts : Table UInt32 Nat) (origin : UInt32) : Table UInt32 Nat :=
  counts.insert origin ((counts.find? origin).getD 0 + 1)

/-- Count one less for an address or network; a count of zero is forgotten. -/
def countDown (counts : Table UInt32 Nat) (origin : UInt32) : Table UInt32 Nat :=
  match counts.find? origin with
  | none => counts
  | some count => if count - 1 = 0 then counts.erase origin else counts.insert origin (count - 1)

/-- Count a record that comes in. -/
def charge (db : Database) (record : Record) : Database :=
  { db with
    perAddress := (record.charge Contact.addressMask).elim db.perAddress (countUp db.perAddress)
    perNetwork := (record.charge Contact.networkMask).elim db.perNetwork (countUp db.perNetwork) }

/-- Count a record that goes out. -/
def discharge (db : Database) (record : Record) : Database :=
  { db with
    perAddress := (record.charge Contact.addressMask).elim db.perAddress (countDown db.perAddress)
    perNetwork := (record.charge Contact.networkMask).elim db.perNetwork (countDown db.perNetwork) }

/-- The settings of the two gauges. -/
def gauges (db : Database) : List Metric.Update :=
  [⟨.keys, db.keyCount⟩, ⟨.values, db.valueCount⟩]

/-! ## Admission -/

/-- A limit is respected: there is none, or the record replaces one of the same origin, or fewer
records than the limit are charged like it. -/
def withinLimit (limit : Option Nat) (mask : UInt32) (charged : Nat) (previous : Option Record)
    (record : Record) : Bool :=
  match limit with
  | none => true
  | some max => record.sameOrigin mask previous || charged < max

/-- The fixed limits let a record in. Local records are exempt. -/
def withinLimits (db : Database) (record : Record) : Bool :=
  let previous := db.find? record.key record.secondary
  record.isLocal ||
    ((!(db.limits.validateCreator && !record.isDirect) || record.hasRoutableCreator) &&
      withinLimit db.limits.maxPerAddress Contact.addressMask (db.valuesPerAddress record) previous
        record &&
      withinLimit db.limits.maxPerNetwork Contact.networkMask (db.valuesPerNetwork record) previous
        record)

/-- A record may be stored: the limits and the policy let it in. -/
def admits (db : Database) (record : Record) : Bool :=
  db.withinLimits record &&
    match db.policy with
    | none => true
    | some policy => policy db.view (db.bag? record.key) record

/-! ## Changing -/

/-- Put a record in its bag, in place of the creator's earlier one. -/
def put (db : Database) (record : Record) : Database :=
  -- counted in before the replaced record is counted out
  let counted := db.charge record
  let bag := (db.bag? record.key).getD { key := record.key }
  let changed := { counted with bags := db.bags.insert record.key (bag.put record) }
  match bag.find? record.secondary with
  | some replaced => changed.discharge replaced
  | none => { changed with valueCount := db.valueCount + 1 }

/-- Take the record under a primary and a secondary key out. A bag that becomes empty goes too. -/
def takeOut (db : Database) (key secondary : Key) : Option (Record × Database) :=
  match db.bag? key with
  | none => none
  | some bag =>
    match bag.find? secondary with
    | none => none
    | some record =>
      let rest := bag.erase secondary
      let bags := if rest.isEmpty then db.bags.erase key else db.bags.insert key rest
      some (record, { db with bags, valueCount := db.valueCount - 1 }.discharge record)

/-- Remove a record and answer it. -/
def remove (db : Database) (key secondary : Key) : Outcome (Option Record) :=
  match db.takeOut key secondary with
  | some (record, rest) => ⟨some record, rest, ⟨.removed, 1⟩ :: rest.gauges⟩
  | none => ⟨none, db, []⟩

/-- Store a record and answer whether that changed anything. An empty value removes the creator's
record instead. -/
def store (db : Database) (record : Record) : Outcome Bool :=
  if record.value.isEmpty then
    match db.takeOut record.key record.secondary with
    | some (_, rest) => ⟨true, rest, ⟨.removed, 1⟩ :: rest.gauges⟩
    | none => ⟨false, db, db.gauges⟩
  else if db.admits record then
    let changed := db.put record
    ⟨true, changed, ⟨.stored, 1⟩ :: changed.gauges⟩
  else ⟨false, db, [⟨.rejected, 1⟩]⟩

/-- Forget all records. The limits, the load rule and the policy stay. -/
def clear (db : Database) : Outcome Unit :=
  let cleared := { limits := db.limits, loadRule := db.loadRule, policy := db.policy : Database }
  ⟨(), cleared, cleared.gauges⟩

/-- The request load of a key at a time; a counted request is remembered. A key without records has
no load. -/
def requestLoad (db : Database) (key : Key) (counted : Bool) (now : Time) : Float32 × Database :=
  match db.bag? key with
  | none => (0, db)
  | some bag =>
    let (load, bag) := bag.requestLoad db.loadRule now counted
    (load, { db with bags := db.bags.insert key bag })

/-- Remove all records that do not satisfy a condition, and answer them. -/
def retain (db : Database) (keep : Record → Bool) : Outcome (List Record) :=
  -- where nothing goes, neither the counts nor the gauges are touched
  let removed := db.records.filter fun record => !keep record
  if removed.isEmpty then ⟨[], db, []⟩
  else
    let bags := (db.bags.map fun _ bag => bag.filter keep).filter fun _ bag => !bag.isEmpty
    let rest := { db with bags, valueCount := db.valueCount - removed.length }
    let rest := removed.foldl discharge rest
    ⟨removed, rest, ⟨.removed, removed.length⟩ :: rest.gauges⟩

/-- Install a policy, or take the present one away. -/
def setPolicy (db : Database) (policy : Option Admission.Policy) : Database :=
  { db with policy }

end Database

end OverlayStore
