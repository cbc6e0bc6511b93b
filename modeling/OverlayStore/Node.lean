import OverlayStore.Catalogue
import OverlayStore.Config
import OverlayStore.Network
import OverlayStore.Publisher
import OverlayStore.Schedule
import OverlayStore.Sweep
import OverlayStore.Value.Factory

/-!
# Nodes

A node brings together what it takes to hold records for others and to keep its own published: the
registries, the database with its sweeper, the catalogue with its publisher, and the network. Work
that cannot be done in the step that asks for it waits in a queue of jobs.
-/

namespace OverlayStore

/-- Recurring work of a node. -/
inductive Chore where
  /-- Sweep the database. -/
  | sweep
  /-- Sweep the database once more, on the schedule of a guest. -/
  | guestSweep
  /-- Take the publisher's turn. -/
  | publish
  deriving DecidableEq, Repr

/-- Work that waits to be done. -/
inductive Job where
  /-- Look after a task of the publisher. -/
  | task (serial : Nat)
  /-- Tell the source of a publication that it was stored. -/
  | notify (publication : Publication) (receipt : Receipt)
  /-- Let the series of recurring work with a number go on. -/
  | wake (chore : Chore) (series : Nat)

/-- A node in a network with states of type `ν`, with publications from sources of type `σ`. -/
structure Node (ν σ : Type) where
  /-- The settings. -/
  settings : Config.Storage
  /-- The time. -/
  now : Time
  /-- How far the timers of recurring work are behind the time. They are behind only while a tick of
  the clock finds jobs that have been waiting since before it. -/
  timerLag : Duration := 0
  /-- The network. -/
  network : ν
  /-- The value types. -/
  types : TypeRegistry
  /-- The value factories. -/
  factories : FactoryRegistry Factory := {}
  /-- The expiry rules. -/
  expiry : Expiry
  /-- The sources of publications. -/
  catalogue : Catalogue σ := {}
  /-- The stamps of publications. -/
  ledger : Ledger := {}
  /-- The records. -/
  database : Database
  /-- The sweeper's schedule. -/
  sweeping : Schedule
  /-- The schedule of another sweeper of the same database, if there is one. -/
  guestSweeping : Option Schedule := none
  /-- The publisher's schedule. -/
  publishing : Schedule
  /-- The publisher. -/
  publisher : Publisher := {}
  /-- The jobs that wait, the oldest first. -/
  jobs : List Job := []
  /-- The number of the next series of recurring work. -/
  nextSeries : Nat := 0
  /-- What has been measured. -/
  recorder : Recorder := {}

/-- What other parts of the program do to a node just before the network is called for a record. -/
structure Node.Interlude (ν σ : Type) where
  /-- It happens at this call. At one call at most the answer is yes. -/
  isNow : Node ν σ → Bool := fun _ => false
  /-- What is done, step by step. No step leaves more than one job. -/
  steps : List (Node ν σ → Node ν σ) := []

/-- Take the steps of an interlude if it happens now. -/
def Node.Interlude.play {ν σ : Type} (interlude : Node.Interlude ν σ) (node : Node ν σ) :
    Node ν σ :=
  if interlude.isNow node then interlude.steps.foldl (fun node step => step node) node else node

namespace Node

variable {ν σ : Type}

/-- A node that has done nothing yet; its registry of value types is given a number. -/
def ofSettings (settings : Config.Storage) (network : ν) (now : Time) (registryNumber : Nat) :
    Node ν σ where
  settings
  now
  network
  types := { number := registryNumber, capacity := settings.typeCacheSize }
  expiry := .ofSettings settings
  database :=
    (Database.ofSettings settings).setPolicy (some (Admission.standard settings.maxPerKey))
  sweeping := { timetable := ⟨settings.sweepInitialDelay, settings.sweepPeriod, 0⟩ }
  publishing := { timetable := ⟨settings.publishInitialDelay, settings.publishPeriod, 0⟩ }

/-- A node that has done nothing yet, provided that its settings are usable. -/
def new (settings : Config.Storage) (network : ν) (now : Time) (registryNumber : Nat) :
    Except Error (Node ν σ) :=
  match settings.validate with
  | .error why => .error (.precondition why.message)
  | .ok () => .ok (ofSettings settings network now registryNumber)

/-- The time by the timers of recurring work. -/
def timerNow (node : Node ν σ) : Time := node.now - (node.timerLag : Int)

/-- Put a job at the end of the queue. -/
def enqueue (node : Node ν σ) (job : Job) : Node ν σ :=
  { node with jobs := node.jobs ++ [job] }

/-- Take in what was measured. -/
def measure (node : Node ν σ) (updates : List Metric.Update) : Node ν σ :=
  { node with recorder := node.recorder.recordAll updates }

/-! ## The database -/

/-- Carry out an operation on the database, and answer its result. -/
def onDatabase {α : Type} (node : Node ν σ) (operation : Database → Database.Outcome α) :
    α × Node ν σ :=
  let outcome := operation node.database
  (outcome.result, { node with database := outcome.database }.measure outcome.updates)

/-- Sweep the database now, and answer how many records were removed. -/
def sweep [Network ν] (node : Node ν σ) : Nat × Node ν σ :=
  node.onDatabase fun db => db.sweep node.expiry (Network.routing node.network) node.now

/-! ## Publishing -/

/-- Do what a turn of the publisher asks for. The source is told before the next task is looked
after. -/
def applyTurn (node : Node ν σ) (turn : Publisher.Turn) : Node ν σ :=
  let node := { node with publisher := turn.publisher }.measure turn.updates
  let node :=
    match turn.stored with
    | some (publication, receipt) =>
      { node with ledger := node.ledger.stamp publication node.now receipt.count }.enqueue
        (.notify publication receipt)
    | none => node
  match turn.task with
  | some serial => node.enqueue (.task serial)
  | none => node

variable [Network ν]

/-- Take the publisher's turn. -/
def publish [Source σ] (node : Node ν σ) : Node ν σ :=
  node.applyTurn (node.publisher.tick (Network.isReady node.network) node.catalogue.snapshot
    (Network.contact node.network) node.now)

/-- End the run in progress. -/
def haltPublisher (node : Node ν σ) : Node ν σ :=
  node.applyTurn node.publisher.halt

/-- A task of the publisher has got its answer. -/
def conclude (node : Node ν σ) (serial : Nat) (result : Except Error Receipt) : Node ν σ :=
  node.applyTurn (node.publisher.conclude serial result (Network.contact node.network) node.now)

/-- The network answers a task that waits for it. -/
def deliver (node : Node ν σ) (serial : Nat) (result : Except Error Receipt) : Node ν σ :=
  { node with publisher := node.publisher.answer serial result }.enqueue (.task serial)

/-- Begin a task, and answer the record that the network is to be called with. -/
def beginTask (node : Node ν σ) (serial : Nat) : Option Record × Node ν σ :=
  let (record, publisher) := node.publisher.begin serial
  (record, { node with publisher })

/-- Call the network on behalf of a task that has begun. -/
def callNetwork (node : Node ν σ) (serial : Nat) (record : Record) : Node ν σ :=
  let reply := Network.store record (some serial) node.now node.network
  let node := { node with network := reply.network }.measure reply.updates
  match reply.answer with
  | some result => node.conclude serial result
  | none => node

/-- Go on with a task that the network has answered or that has been given up. Where the task is
over, the network need not answer it any more. -/
def resumeTask (node : Node ν σ) (serial : Nat) : Node ν σ :=
  let node := node.applyTurn
    (node.publisher.resume serial (Network.contact node.network) node.now)
  if (node.publisher.task? serial).isSome then node
  else { node with network := Network.forget serial node.network }

/-- Look after a task: begin it if it has not begun, else go on with it. `meanwhile` is what other
parts of the program do to the node after the task has begun and before the network is called. -/
def attend (meanwhile : Interlude ν σ) (node : Node ν σ) (serial : Nat) : Node ν σ :=
  match node.beginTask serial with
  | (some record, node) => (meanwhile.play node).callNetwork serial record
  | (none, node) => node.resumeTask serial

/-- Have a record stored in the network, outside any run. -/
def storeRemotely (node : Node ν σ) (record : Record) :
    Option (Except Error Receipt) × Node ν σ :=
  let reply := Network.store record none node.now node.network
  (reply.answer, { node with network := reply.network }.measure reply.updates)

end Node

end OverlayStore
