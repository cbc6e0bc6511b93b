import OverlayStore.Table

/-!
# Metrics

The counters, gauges and histograms of a node. Operations report what they measured as a list of
updates; a recorder sums counters, keeps the last setting of a gauge and counts the entries of a
histogram. A metric appears in a recorder once it has been touched.
-/

namespace OverlayStore

/-- The metrics of a node. -/
inductive Metric where
  | stored
  | rejected
  | removed
  | keys
  | values
  | evicted
  | sweepMillis
  | published
  | failed
  deriving DecidableEq, Repr

namespace Metric

/-- What a metric does with what it is told. -/
inductive Kind where
  | counter
  | gauge
  | histogram
  deriving DecidableEq, Repr

/-- The name of a kind. -/
def Kind.name : Kind → String
  | .counter => "counter"
  | .gauge => "gauge"
  | .histogram => "histogram"

/-- All metrics, in the order in which they are described. -/
def all : List Metric :=
  [.stored, .rejected, .removed, .keys, .values, .evicted, .sweepMillis, .published, .failed]

/-- The kind of a metric. -/
def kind : Metric → Kind
  | .keys => .gauge
  | .values => .gauge
  | .sweepMillis => .histogram
  | _ => .counter

/-- The name of a metric. -/
def name : Metric → String
  | .stored => "dht.db.stored"
  | .rejected => "dht.db.rejected"
  | .removed => "dht.db.removed"
  | .keys => "dht.db.keys"
  | .values => "dht.db.values"
  | .evicted => "dht.cleaner.evicted"
  | .sweepMillis => "dht.cleaner.pass_ms"
  | .published => "dht.publisher.published"
  | .failed => "dht.publisher.failed"

/-- What a metric tells. -/
def description : Metric → String
  | .stored => "Values inserted or replaced in the database"
  | .rejected => "Stores rejected by flood limits or admission policy"
  | .removed => "Values removed from the database"
  | .keys => "Number of primary keys in the database"
  | .values => "Number of values in the database"
  | .evicted => "Expired values removed by the database cleaner"
  | .sweepMillis => "Duration of one database cleaner pass in milliseconds"
  | .published => "Storables stored into the network"
  | .failed => "Storable stores that failed and halted a run"

/-- Something measured. -/
structure Update where
  /-- The metric. -/
  metric : Metric
  /-- The amount to count, or the new setting of a gauge. -/
  amount : Nat
  deriving DecidableEq, Repr

end Metric

/-- What has been measured so far. -/
structure Recorder where
  /-- The figure of each metric that has been touched. -/
  figures : Table Metric Nat := .empty

namespace Recorder

/-- The figure of a metric, zero if it has not been touched. -/
def figure (recorder : Recorder) (metric : Metric) : Nat :=
  (recorder.figures.find? metric).getD 0

/-- Take in something measured. -/
def record (recorder : Recorder) (update : Metric.Update) : Recorder :=
  let figure :=
    match update.metric.kind with
    | .counter => recorder.figure update.metric + update.amount
    | .gauge => update.amount
    | .histogram => recorder.figure update.metric + 1
  ⟨recorder.figures.insert update.metric figure⟩

/-- Take in everything measured by an operation. -/
def recordAll (recorder : Recorder) (updates : List Metric.Update) : Recorder :=
  updates.foldl record recorder

end Recorder

end OverlayStore
