import Mathlib.Data.List.Nodup
import OverlayStore.Config.Environment
import OverlayStore.Proofs.Text.Blank

/-!
# Single settings

The settings of a node are nineteen values, each of one of six kinds and each with an environment
variable of its own. Settings are known by these values (`Config.ofValues_get`), so to set one of
them is to change a function at one argument. `Variable.all_eq` shows that every variable does just
this for its own setting, with the value that its text denotes for the kind of the setting.
-/

namespace OverlayStore.Config

/-! ## Kinds of values -/

/-- The kinds of values that settings have. -/
inductive Kind where
  | whole
  | duration
  | flag
  | single
  | level
  | texts
  deriving DecidableEq, Repr

/-- The values of a kind. -/
abbrev Kind.Value : Kind → Type
  | .whole => Nat
  | .duration => Duration
  | .flag => Bool
  | .single => Float32
  | .level => Log.Level
  | .texts => List String

/-- Why a text denotes no value of a kind. -/
inductive Flaw where
  /-- The text makes no sense, for the reason given. -/
  | malformed (reason : String)
  /-- A duration runs over the longest one while it is read, which brings the program down. -/
  | overrun
  deriving DecidableEq, Repr

/-- The error that reports a flaw of a variable. -/
def Flaw.error (name : String) : Flaw → Error
  | .malformed reason => .invalidValue name reason
  | .overrun => .overrun

/-- The error names a value where the text is malformed, and the variable that it was given in. -/
theorem Flaw.error_eq_invalidValue_iff {name key reason : String} {flaw : Flaw} :
    flaw.error name = .invalidValue key reason ↔ flaw = .malformed reason ∧ name = key := by
  cases flaw <;> simp [error, and_comm]

/-- The error is an overrun where reading the text overruns. -/
theorem Flaw.error_eq_overrun_iff {name : String} {flaw : Flaw} :
    flaw.error name = .overrun ↔ flaw = .overrun := by
  cases flaw <;> simp [error]

/-- No flaw of a single variable is a fault of the settings as a whole. -/
theorem Flaw.error_ne_validationFailed (name why : String) (flaw : Flaw) :
    flaw.error name ≠ .validationFailed why := by
  cases flaw <;> simp [error]

/-- The items of a text, which stand between its commas: the blanks around an item are no part of
it, and items without characters do not count. -/
def items (text : String) : List String :=
  (((Text.splitAt ',' text.toList).map Text.trimBlank).filter (!·.isEmpty)).map String.ofList

/-- The value of a kind that a text denotes, whatever blanks are around it. -/
def Kind.read : (kind : Kind) → String → Except Flaw kind.Value
  | .whole, text =>
    (Number.wholeOfText (Text.trim text)).mapError fun why => .malformed why.message
  | .duration, text =>
    (Duration.ofText (Text.trim text)).mapError fun
      | .overrun => .overrun
      | why => .malformed why.message
  | .flag, text =>
    if Text.trim text = "true" then .ok true
    else if Text.trim text = "false" then .ok false
    else .error (.malformed "provided string was not `true` or `false`")
  | .single, text =>
    (Number.singleOfText (Text.trim text)).mapError fun why => .malformed why.message
  | .level, text =>
    (Log.Level.ofText (Text.trim text)).mapError fun why => .malformed why.message
  | .texts, text => .ok (items text)

/-! ## Settings -/

/-- The single settings: those of storage, then those of logging. -/
inductive Setting where
  | replication
  | typeCacheSize
  | valueExpiration
  | sweepInitialDelay
  | sweepPeriod
  | publishInitialDelay
  | publishPeriod
  | maxPerKey
  | limitPerAddress
  | maxPerAddress
  | limitPerNetwork
  | maxPerNetwork
  | validateCreator
  | loadSmoothing
  | loadNullingDelay
  | level
  | jsonFormat
  | withTarget
  | directives
  deriving DecidableEq, Repr

namespace Setting

/-- The settings of storage. -/
def ofStorage : List Setting :=
  [.replication, .typeCacheSize, .valueExpiration, .sweepInitialDelay, .sweepPeriod,
    .publishInitialDelay, .publishPeriod, .maxPerKey, .limitPerAddress, .maxPerAddress,
    .limitPerNetwork, .maxPerNetwork, .validateCreator, .loadSmoothing, .loadNullingDelay]

/-- The settings of logging. -/
def ofLog : List Setting := [.level, .jsonFormat, .withTarget, .directives]

/-- All settings, those of storage first. -/
def all : List Setting := ofStorage ++ ofLog

theorem mem_all (setting : Setting) : setting ∈ all := by
  cases setting <;> decide

/-- The kind of values that a setting has. -/
def kind : Setting → Kind
  | .replication | .typeCacheSize | .maxPerKey | .maxPerAddress | .maxPerNetwork => .whole
  | .valueExpiration | .sweepInitialDelay | .sweepPeriod | .publishInitialDelay | .publishPeriod
  | .loadNullingDelay => .duration
  | .limitPerAddress | .limitPerNetwork | .validateCreator | .jsonFormat | .withTarget => .flag
  | .loadSmoothing => .single
  | .level => .level
  | .directives => .texts

/-- The values of a setting. -/
abbrev Value (setting : Setting) : Type := setting.kind.Value

/-- The environment variable of a setting. -/
def variableName : Setting → String
  | .replication => "KADMOS_DHT_REPLICATION_PARAMETER"
  | .typeCacheSize => "KADMOS_DHT_VALUE_TYPE_CACHE_SIZE"
  | .valueExpiration => "KADMOS_DHT_VALUE_EXPIRATION"
  | .sweepInitialDelay => "KADMOS_DHT_CLEANER_INITIAL_DELAY"
  | .sweepPeriod => "KADMOS_DHT_CLEANER_PERIOD"
  | .publishInitialDelay => "KADMOS_DHT_PUBLISHER_INITIAL_DELAY"
  | .publishPeriod => "KADMOS_DHT_PUBLISHER_PERIOD"
  | .maxPerKey => "KADMOS_DHT_MAX_VALUES_PER_KEY"
  | .limitPerAddress => "KADMOS_DHT_LIMIT_VALUES_PER_ADDRESS"
  | .maxPerAddress => "KADMOS_DHT_MAX_VALUES_PER_ADDRESS"
  | .limitPerNetwork => "KADMOS_DHT_LIMIT_VALUES_PER_NETWORK"
  | .maxPerNetwork => "KADMOS_DHT_MAX_VALUES_PER_NETWORK"
  | .validateCreator => "KADMOS_DHT_VALIDATE_VALUE_CREATOR"
  | .loadSmoothing => "KADMOS_DHT_REQUEST_LOAD_SMOOTHING"
  | .loadNullingDelay => "KADMOS_DHT_REQUEST_LOAD_NULLING_DELAY"
  | .level => "KADMOS_LOGGING_LEVEL"
  | .jsonFormat => "KADMOS_LOGGING_JSON"
  | .withTarget => "KADMOS_LOGGING_WITH_TARGET"
  | .directives => "KADMOS_LOGGING_DIRECTIVES"

/-- The value of a setting. -/
def get : (setting : Setting) → Config → setting.Value
  | .replication, config => config.storage.replication
  | .typeCacheSize, config => config.storage.typeCacheSize
  | .valueExpiration, config => config.storage.valueExpiration
  | .sweepInitialDelay, config => config.storage.sweepInitialDelay
  | .sweepPeriod, config => config.storage.sweepPeriod
  | .publishInitialDelay, config => config.storage.publishInitialDelay
  | .publishPeriod, config => config.storage.publishPeriod
  | .maxPerKey, config => config.storage.maxPerKey
  | .limitPerAddress, config => config.storage.limitPerAddress
  | .maxPerAddress, config => config.storage.maxPerAddress
  | .limitPerNetwork, config => config.storage.limitPerNetwork
  | .maxPerNetwork, config => config.storage.maxPerNetwork
  | .validateCreator, config => config.storage.validateCreator
  | .loadSmoothing, config => config.storage.loadSmoothing
  | .loadNullingDelay, config => config.storage.loadNullingDelay
  | .level, config => config.log.level
  | .jsonFormat, config => config.log.jsonFormat
  | .withTarget, config => config.log.withTarget
  | .directives, config => config.log.directives

/-- No two settings have the same variable. -/
theorem variableName_injective : Function.Injective variableName := by
  have hnodup : (all.map variableName).Nodup := by decide
  intro setting other h
  exact List.inj_on_of_nodup_map hnodup setting.mem_all other.mem_all h

end Setting

/-- The settings with the given values. -/
def ofValues (value : (setting : Setting) → setting.Value) : Config where
  storage := {
    replication := value .replication
    typeCacheSize := value .typeCacheSize
    valueExpiration := value .valueExpiration
    sweepInitialDelay := value .sweepInitialDelay
    sweepPeriod := value .sweepPeriod
    publishInitialDelay := value .publishInitialDelay
    publishPeriod := value .publishPeriod
    maxPerKey := value .maxPerKey
    limitPerAddress := value .limitPerAddress
    maxPerAddress := value .maxPerAddress
    limitPerNetwork := value .limitPerNetwork
    maxPerNetwork := value .maxPerNetwork
    validateCreator := value .validateCreator
    loadSmoothing := value .loadSmoothing
    loadNullingDelay := value .loadNullingDelay }
  log := {
    level := value .level
    jsonFormat := value .jsonFormat
    withTarget := value .withTarget
    directives := value .directives }

/-- Each setting has the value that it was given. -/
theorem get_ofValues (value : (setting : Setting) → setting.Value) (setting : Setting) :
    setting.get (ofValues value) = value setting := by
  cases setting <;> rfl

/-- Settings are known by the values of the single settings. -/
theorem ofValues_get (config : Config) : ofValues (fun setting => setting.get config) = config :=
  rfl

/-- A configuration has nothing but its settings. -/
theorem eq_of_get {config other : Config}
    (h : ∀ setting : Setting, setting.get config = setting.get other) : config = other := by
  rw [← ofValues_get config, ← ofValues_get other]
  exact congrArg ofValues (funext h)

namespace Setting

/-- The settings with another value for one of them. -/
def set (setting : Setting) (value : setting.Value) (config : Config) : Config :=
  ofValues (Function.update (fun other => other.get config) setting value)

variable {setting other : Setting} (value : setting.Value) (config : Config)

/-- A setting that is set has the new value. -/
theorem get_set : setting.get (setting.set value config) = value := by
  rw [set, get_ofValues, Function.update_self]

/-- Setting one setting leaves all others alone. -/
theorem get_set_of_ne (h : other ≠ setting) :
    other.get (setting.set value config) = other.get config := by
  rw [set, get_ofValues, Function.update_of_ne h]

/-- To set a setting to the value it has changes nothing. -/
theorem set_get : setting.set (setting.get config) config = config := by
  rw [set, Function.update_eq_self, ofValues_get]

end Setting

/-! ## Variables -/

namespace Variable

/-- The reader that variables for settings of a kind have. -/
def reader : (kind : Kind) → String → String → Except Error kind.Value
  | .whole => readWhole
  | .duration => readDuration
  | .flag => readFlag
  | .single => readSingle
  | .level => readLevel
  | .texts => readList

/-- Blanks around a list are blanks around its first and its last item. -/
theorem items_trim (text : String) : items (Text.trim text) = items text := by
  rw [items, items, Text.trim, String.toList_ofList, Text.map_trimBlank_splitAt rfl]

/-- What a variable reads is what its text denotes, and the error names the variable. -/
theorem reader_trim (kind : Kind) (name text : String) :
    reader kind name (Text.trim text) = (kind.read text).mapError (Flaw.error name) := by
  cases kind with
  | whole =>
    rw [reader, readWhole, Kind.read]
    cases Number.wholeOfText (Text.trim text) <;> rfl
  | duration =>
    rw [reader, readDuration, Kind.read]
    cases Duration.ofText (Text.trim text) with
    | ok span => rfl
    | error why => cases why <;> rfl
  | flag =>
    rw [reader, readFlag, Kind.read]
    split
    · rfl
    · split <;> rfl
  | single =>
    rw [reader, readSingle, Kind.read]
    cases Number.singleOfText (Text.trim text) <;> rfl
  | level =>
    rw [reader, readLevel, Kind.read]
    cases Log.Level.ofText (Text.trim text) <;> rfl
  | texts => exact congrArg Except.ok (items_trim text)

/-- The variable that sets a setting to the value that its text denotes. -/
def ofSetting (setting : Setting) : Variable where
  name := setting.variableName
  assign text config :=
    ((setting.kind.read text).mapError (Flaw.error setting.variableName)).map fun value =>
      setting.set value config

/-- A variable that puts the values of its setting where this setting is. -/
theorem ofSetting_eq {setting : Setting} {name : String} {put : setting.Value → Config → Config}
    (hname : namePrefix ++ name = setting.variableName)
    (hput : ∀ value config, put value config = setting.set value config) :
    ofSetting setting = of name (reader setting.kind) put := by
  simp only [of, ofSetting, hname, hput, reader_trim]

/-- The variables are those of the settings, in the same order. Each one reads a value of the kind
of its setting and puts it where this setting is. -/
theorem map_ofSetting : Setting.all.map ofSetting = all := by
  simp only [all, storage, log, Setting.all, Setting.ofStorage, Setting.ofLog, List.cons_append,
    List.nil_append, List.map_cons, List.map_nil, List.cons.injEq, and_true]
  -- one equation for each variable: its name and the place of its setting are compared
  and_intros <;> exact ofSetting_eq rfl fun _ _ => rfl

end Variable

end OverlayStore.Config
