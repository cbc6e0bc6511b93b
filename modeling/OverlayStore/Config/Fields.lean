import OverlayStore.Config
import OverlayStore.Datum

/-!
# Settings as data

The named fields of the settings, how each is read from a value and written to one. A record of
settings is read from a table, in which missing fields keep their defaults and unknown ones are
ignored, or from a list of the values in the order of the fields.
-/

namespace OverlayStore.Config

/-- Why a value does not describe settings. -/
inductive Misfit where
  /-- It is of the wrong kind, or it makes no sense. -/
  | unreadable
  /-- A duration runs over the longest one. -/
  | overrun
  deriving DecidableEq, Repr

/-- What was read, if anything. -/
def Misfit.orUnreadable {α : Type} (found : Option α) : Except Misfit α :=
  found.elim (.error .unreadable) .ok

/-- A named field of a record of settings. -/
structure Field (σ : Type) where
  /-- The name of the field. -/
  name : String
  /-- Set the field to a value, if the value fits. -/
  read : Datum → σ → Except Misfit σ
  /-- The value of the field. -/
  write : σ → Datum

namespace Field

variable {σ : Type}

/-- A field that holds a whole number. -/
def whole (name : String) (get : σ → Nat) (set : Nat → σ → σ) : Field σ where
  name
  read value s := Misfit.orUnreadable (value.nat?.map fun x => set x s)
  write s := .whole (get s)

/-- The duration that a text denotes. -/
def readDuration (text : String) : Except Misfit Duration :=
  (Duration.ofText text).mapError fun
    | .overrun => .overrun
    | _ => .unreadable

/-- A field that holds a duration, written as text. -/
def duration (name : String) (get : σ → Duration) (set : Duration → σ → σ) : Field σ where
  name
  read value s := do
    let text ← Misfit.orUnreadable value.text?
    return set (← readDuration text) s
  write s := .text (Duration.toText (get s))

/-- A field that holds a truth value. -/
def flag (name : String) (get : σ → Bool) (set : Bool → σ → σ) : Field σ where
  name
  read value s := Misfit.orUnreadable (value.flag?.map fun x => set x s)
  write s := .flag (get s)

/-- A field that holds a single-precision number. -/
def single (name : String) (get : σ → Float32) (set : Float32 → σ → σ) : Field σ where
  name
  read value s := Misfit.orUnreadable (value.single?.map fun x => set x s)
  write s := .real (get s).toFloat

/-- Set the fields from the entries of a table, one entry after the other. The fields that have not
been given yet are `fields`; among all the names, one that is given twice is refused, and one that
is no field's is ignored. -/
def readTable (names : List String) : List (Field σ) → List (String × Datum) → σ → Except Misfit σ
  | _, [], s => .ok s
  | fields, (name, value) :: rest, s =>
    match fields.find? fun field => field.name == name with
    | some field => do
      readTable names (fields.filter fun field => field.name != name) rest (← field.read value s)
    | none => if names.contains name then .error .unreadable else readTable names fields rest s

/-- Set the fields from a list of values in the order of the fields. -/
def readList (exact : Bool) : List Datum → List (Field σ) → σ → Except Misfit σ
  | [], _, s => .ok s
  | _ :: _, [], s => if exact then .error .unreadable else .ok s
  | value :: values, field :: rest, s => do readList exact values rest (← field.read value s)

/-- Read a record of settings over its defaults. What is found first decides why it is refused. An
exact list has no more values than there are fields. -/
def readRecord (exact : Bool) (fields : List (Field σ)) (default : σ) : Datum → Except Misfit σ
  | .table _ entries => readTable (fields.map (·.name)) fields entries default
  | .list values => readList exact values fields default
  | _ => .error .unreadable

/-- Write a record of settings, each field under its name. -/
def writeRecord (fields : List (Field σ)) (s : σ) : List (String × Datum) :=
  fields.map fun field => (field.name, field.write s)

end Field

/-- The level that a value names: its exact name, or a table of one entry of that name, which is
empty. -/
def levelOfDatum? : Datum → Option Log.Level
  | .text name => Log.Level.ofName? name
  | .table _ [(name, value)] =>
    if value.isEmptyCollection then Log.Level.ofName? name else none
  | _ => none

/-- The fields of the storage settings. -/
def storageFields : List (Field Storage) := [
  .whole "replication_parameter" (·.replication) fun x s => { s with replication := x },
  .whole "value_type_cache_size" (·.typeCacheSize) fun x s => { s with typeCacheSize := x },
  .duration "value_expiration" (·.valueExpiration) fun x s => { s with valueExpiration := x },
  .duration "cleaner_initial_delay" (·.sweepInitialDelay)
    fun x s => { s with sweepInitialDelay := x },
  .duration "cleaner_period" (·.sweepPeriod) fun x s => { s with sweepPeriod := x },
  .duration "publisher_initial_delay" (·.publishInitialDelay)
    fun x s => { s with publishInitialDelay := x },
  .duration "publisher_period" (·.publishPeriod) fun x s => { s with publishPeriod := x },
  .whole "max_values_per_key" (·.maxPerKey) fun x s => { s with maxPerKey := x },
  .flag "limit_values_per_address" (·.limitPerAddress) fun x s => { s with limitPerAddress := x },
  .whole "max_values_per_address" (·.maxPerAddress) fun x s => { s with maxPerAddress := x },
  .flag "limit_values_per_network" (·.limitPerNetwork) fun x s => { s with limitPerNetwork := x },
  .whole "max_values_per_network" (·.maxPerNetwork) fun x s => { s with maxPerNetwork := x },
  .flag "validate_value_creator" (·.validateCreator) fun x s => { s with validateCreator := x },
  .single "request_load_smoothing" (·.loadSmoothing) fun x s => { s with loadSmoothing := x },
  .duration "request_load_nulling_delay" (·.loadNullingDelay)
    fun x s => { s with loadNullingDelay := x }]

/-- The fields of the log settings. -/
def logFields : List (Field Log.Config) := [
  { name := "level"
    read := fun value s =>
      Misfit.orUnreadable ((levelOfDatum? value).map fun x => { s with level := x })
    write := fun s => .text s.level.name },
  { name := "directives"
    read := fun value s =>
      Misfit.orUnreadable (value.texts?.map fun x => { s with directives := x })
    write := fun s => .list (s.directives.map .text) },
  .flag "with_target" (·.withTarget) fun x s => { s with withTarget := x },
  .flag "json_format" (·.jsonFormat) fun x s => { s with jsonFormat := x }]

/-- The two sections of the settings. -/
def sections (exact : Bool) : List (Field Config) := [
  { name := "dht"
    read := fun value c =>
      (Field.readRecord exact storageFields {} value).map fun x => { c with storage := x }
    write := fun c => .table false (Field.writeRecord storageFields c.storage) },
  { name := "logging"
    read := fun value c =>
      (Field.readRecord exact logFields {} value).map fun x => { c with log := x }
    write := fun c => .table false (Field.writeRecord logFields c.log) }]

/-- The storage settings that a value describes, over the given defaults. -/
def Storage.ofDatum (default : Storage) (value : Datum) : Except Misfit Storage :=
  Field.readRecord true storageFields default value

/-- The storage settings that a text in JSON describes. Faults of the text itself count in their
place among those of the values. -/
def Storage.ofJsonText (text : String) : Except Misfit Storage := do
  let (value, complete) := Json.beforeFault text
  let settings ← Storage.ofDatum {} (Datum.ofJson value)
  if complete then return settings else .error .unreadable

/-- The settings that a value describes. -/
def ofDatum (value : Datum) : Except Misfit Config :=
  Field.readRecord false (sections false) {} value

end OverlayStore.Config
