import OverlayStore.Config

/-!
# Settings from the environment

Environment variables override single default settings. Each variable is read on its own, in a
fixed order, and the first one with a value that makes no sense is reported. Only when all values
make sense are the resulting settings checked as a whole.
-/

namespace OverlayStore.Config

/-- An environment variable and the setting that it overrides. -/
structure Variable where
  /-- The name of the variable. -/
  name : String
  /-- Set the setting to the value, or say why that is impossible. -/
  assign : String → Config → Except Error Config

namespace Variable

/-- What all names begin with. -/
def namePrefix : String := "KADMOS_"

/-- A variable whose value is read by `read` and put into the settings by `put`. -/
def of {α : Type} (name : String) (read : String → String → Except Error α)
    (put : α → Config → Config) : Variable where
  name := namePrefix ++ name
  assign value config :=
    (read (namePrefix ++ name) (Text.trim value)).map fun setting => put setting config

/-- Read a whole number for the variable with a name. -/
def readWhole (name text : String) : Except Error Nat :=
  (Number.wholeOfText text).mapError fun why => .invalidValue name why.message

/-- Read a duration. -/
def readDuration (name text : String) : Except Error Duration :=
  (Duration.ofText text).mapError fun
    | .overrun => .overrun
    | why => .invalidValue name why.message

/-- Read a truth value. -/
def readFlag (name text : String) : Except Error Bool :=
  if text = "true" then .ok true
  else if text = "false" then .ok false
  else .error (.invalidValue name "provided string was not `true` or `false`")

/-- Read a single-precision number. -/
def readSingle (name text : String) : Except Error Float32 :=
  (Number.singleOfText text).mapError fun why => .invalidValue name why.message

/-- Read a log level. -/
def readLevel (name text : String) : Except Error Log.Level :=
  (Log.Level.ofText text).mapError fun why => .invalidValue name why.message

/-- Read a list whose items are separated by commas; items without characters are left out. -/
def readList (_name text : String) : Except Error (List String) :=
  .ok (((Text.splitAt ',' text.toList).map Text.trimBlank).filter (!·.isEmpty)
    |>.map String.ofList)

/-- A variable for a storage setting. -/
def storage {α : Type} (name : String) (read : String → String → Except Error α)
    (put : α → Storage → Storage) : Variable :=
  of ("DHT_" ++ name) read fun setting config =>
    { config with storage := put setting config.storage }

/-- A variable for a log setting. -/
def log {α : Type} (name : String) (read : String → String → Except Error α)
    (put : α → Log.Config → Log.Config) : Variable :=
  of ("LOGGING_" ++ name) read fun setting config => { config with log := put setting config.log }

/-- All variables, in the order in which they are read. -/
def all : List Variable := [
  storage "REPLICATION_PARAMETER" readWhole fun x s => { s with replication := x },
  storage "VALUE_TYPE_CACHE_SIZE" readWhole fun x s => { s with typeCacheSize := x },
  storage "VALUE_EXPIRATION" readDuration fun x s => { s with valueExpiration := x },
  storage "CLEANER_INITIAL_DELAY" readDuration fun x s => { s with sweepInitialDelay := x },
  storage "CLEANER_PERIOD" readDuration fun x s => { s with sweepPeriod := x },
  storage "PUBLISHER_INITIAL_DELAY" readDuration fun x s => { s with publishInitialDelay := x },
  storage "PUBLISHER_PERIOD" readDuration fun x s => { s with publishPeriod := x },
  storage "MAX_VALUES_PER_KEY" readWhole fun x s => { s with maxPerKey := x },
  storage "LIMIT_VALUES_PER_ADDRESS" readFlag fun x s => { s with limitPerAddress := x },
  storage "MAX_VALUES_PER_ADDRESS" readWhole fun x s => { s with maxPerAddress := x },
  storage "LIMIT_VALUES_PER_NETWORK" readFlag fun x s => { s with limitPerNetwork := x },
  storage "MAX_VALUES_PER_NETWORK" readWhole fun x s => { s with maxPerNetwork := x },
  storage "VALIDATE_VALUE_CREATOR" readFlag fun x s => { s with validateCreator := x },
  storage "REQUEST_LOAD_SMOOTHING" readSingle fun x s => { s with loadSmoothing := x },
  storage "REQUEST_LOAD_NULLING_DELAY" readDuration fun x s => { s with loadNullingDelay := x },
  log "LEVEL" readLevel fun x s => { s with level := x },
  log "JSON" readFlag fun x s => { s with jsonFormat := x },
  log "WITH_TARGET" readFlag fun x s => { s with withTarget := x },
  log "DIRECTIVES" readList fun x s => { s with directives := x }]

/-- Apply a variable if it is set. -/
def apply (lookup : String → Option String) (config : Config) (v : Variable) :
    Except Error Config :=
  match lookup v.name with
  | none => .ok config
  | some value => v.assign value config

end Variable

/-- The default settings, overridden by the variables that are set, and checked. -/
def ofLookup (lookup : String → Option String) : Except Error Config :=
  match Variable.all.foldlM (Variable.apply lookup) {} with
  | .ok config => config.validated
  | .error why => .error why

end OverlayStore.Config
