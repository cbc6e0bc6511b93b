import OverlayStore.Duration

/-!
# Storage settings

The tunables of record storage and of republishing, their defaults, and what makes them usable.
-/

namespace OverlayStore.Config

/-- The settings of storage and republishing. -/
structure Storage where
  /-- How many of the nodes closest to a key hold its records. -/
  replication : Nat := 20
  /-- How many value types are kept at hand. -/
  typeCacheSize : Nat := 254
  /-- How long a remote record lives without being stored again. -/
  valueExpiration : Duration := Duration.minutes 60
  /-- The delay before the first sweep. -/
  sweepInitialDelay : Duration := Duration.minutes 5
  /-- The delay from the end of one sweep to the start of the next. -/
  sweepPeriod : Duration := Duration.minutes 5
  /-- The delay before the publisher's first turn. -/
  publishInitialDelay : Duration := Duration.minutes 1
  /-- The delay between the publisher's turns. -/
  publishPeriod : Duration := Duration.minutes 5
  /-- How many creators may store under one key. -/
  maxPerKey : Nat := 5
  /-- Whether the records from one IPv4 address are limited in number. -/
  limitPerAddress : Bool := true
  /-- How many records may come from one IPv4 address. -/
  maxPerAddress : Nat := 5
  /-- Whether the records from one /24 network are limited in number. -/
  limitPerNetwork : Bool := true
  /-- How many records may come from one /24 network. -/
  maxPerNetwork : Nat := 20
  /-- Whether the creators of indirect records need a routable address. -/
  validateCreator : Bool := true
  /-- The weight of the newest sample in the request load. -/
  loadSmoothing : Float32 := 0.25
  /-- The gap between requests beyond which the load starts again from zero. -/
  loadNullingDelay : Duration := Duration.minutes 1

namespace Storage

/-- Settings with short delays and no limits, for trying things out. -/
def brisk : Storage :=
  { replication := 3, valueExpiration := Duration.seconds 30
    sweepInitialDelay := Duration.millis 100, sweepPeriod := Duration.millis 100
    publishInitialDelay := Duration.millis 100, publishPeriod := Duration.millis 100
    limitPerAddress := false, limitPerNetwork := false, validateCreator := false }

/-- Switch both flood limits on or off. -/
def withFloodLimits (settings : Storage) (enabled : Bool) : Storage :=
  { settings with limitPerAddress := enabled, limitPerNetwork := enabled }

/-- Why settings are unusable. -/
inductive Fault where
  | noReplication
  | noTypeCache
  | noPeriod
  | noRoomPerKey
  | smoothingOutOfRange (smoothing : Float32)

/-- The wording of a fault. -/
def Fault.message : Fault → String
  | .noReplication => "replication_parameter must be greater than 0"
  | .noTypeCache => "value_type_cache_size must be greater than 0"
  | .noPeriod => "cleaner_period and publisher_period must be non-zero"
  | .noRoomPerKey => "max_values_per_key must be greater than 0"
  | .smoothingOutOfRange smoothing =>
    s!"request_load_smoothing must be in (0, 1], got {Number.singleToText smoothing}"

/-- The smoothing is a weight: above zero and at most one. -/
def smoothingInRange (settings : Storage) : Bool :=
  let one := Number.singleOfNat 1
  let zero := Number.singleOfNat 0
  settings.loadSmoothing > zero && settings.loadSmoothing ≤ one

/-- The first fault of the settings, if they have one. -/
def fault? (settings : Storage) : Option Fault :=
  if settings.replication = 0 then some .noReplication
  else if settings.typeCacheSize = 0 then some .noTypeCache
  else if settings.sweepPeriod = 0 ∨ settings.publishPeriod = 0 then some .noPeriod
  else if settings.maxPerKey = 0 then some .noRoomPerKey
  else if settings.smoothingInRange then none
  else some (.smoothingOutOfRange settings.loadSmoothing)

end Storage

end OverlayStore.Config
