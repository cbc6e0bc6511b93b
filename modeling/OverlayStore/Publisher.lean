import OverlayStore.Error
import OverlayStore.Metrics
import OverlayStore.Publication
import OverlayStore.Record

/-!
# The publisher

A publisher works through a snapshot of publications and stores them into the network one after the
other: the next store is begun when the one before has succeeded, and a failure ends the run. Each
store is a task of its own, which is begun, waits for the network and is concluded later. Every run
has a generation number, so that the conclusion of a store that belongs to no run any more is
ignored.

All steps are functions on the publisher's state. What a step asks for from outside, such as calls
into the network and stamps, is in its `Turn`.
-/

namespace OverlayStore

namespace Publisher

/-- Where a store task stands. -/
inductive Stage where
  /-- The network has not been called yet. -/
  | queued
  /-- The network has been called. -/
  | awaiting
  /-- The network has answered. -/
  | answered (result : Except Error Receipt)

/-- One store of one publication. -/
structure Task where
  /-- What tells this task from all others. -/
  serial : Nat
  /-- The run that the store belongs to. -/
  generation : UInt64
  /-- What is stored. -/
  publication : Publication
  /-- The record that the network is called with. -/
  record : Record
  /-- The task has been given up. -/
  aborted : Bool := false
  /-- Where the task stands. -/
  stage : Stage := .queued

end Publisher

/-- The state of publishing. -/
structure Publisher where
  /-- The number of the latest run. -/
  generation : UInt64 := 0
  /-- What is still to be stored in the run in progress, if there is one. -/
  pending : Option (List Publication) := none
  /-- The task that the run waits for. -/
  inFlight : Option Nat := none
  /-- The tasks that are not over. -/
  tasks : List Publisher.Task := []
  /-- The serial number of the next task. -/
  nextSerial : Nat := 0

namespace Publisher

/-- A run is in progress. -/
def isRunning (publisher : Publisher) : Bool := publisher.pending.isSome

/-- A task that is neither over nor given up. -/
def liveTasks (publisher : Publisher) : List Task :=
  publisher.tasks.filter fun task => !task.aborted

/-- The task with a serial number, unless it is over. -/
def task? (publisher : Publisher) (serial : Nat) : Option Task :=
  publisher.tasks.find? fun task => task.serial = serial

/-- The task with a serial number is over. -/
def discard (publisher : Publisher) (serial : Nat) : Publisher :=
  { publisher with tasks := publisher.tasks.filter fun task => task.serial ≠ serial }

/-- Change the task with a serial number. -/
def modifyTask (publisher : Publisher) (serial : Nat) (change : Task → Task) : Publisher :=
  { publisher with
    tasks := publisher.tasks.map fun task => if task.serial = serial then change task else task }

/-- What a step leaves behind and asks for. -/
structure Turn where
  /-- The publisher afterwards. -/
  publisher : Publisher
  /-- A publication was stored: it is to be stamped, and its source is to be told. -/
  stored : Option (Publication × Receipt) := none
  /-- A task is to be looked after: it can be begun, or it has been given up. -/
  task : Option Nat := none
  /-- What was measured. -/
  updates : List Metric.Update := []

/-- End the run in progress and give its task up. Every halt begins a new generation. -/
def halt (publisher : Publisher) : Turn :=
  let halted := { publisher with
    generation := publisher.generation + 1, pending := none, inFlight := none }
  -- the task stays around until it is polled again, or its store is completed after all
  match publisher.inFlight with
  | none => { publisher := halted }
  | some serial =>
    { publisher := halted.modifyTask serial fun task => { task with aborted := true }
      task := some serial }

/-- Go on with the run in progress: make a task of the next publication, or end the run. The record
is made here, so it bears the time of the step. -/
def advance (publisher : Publisher) (node : Contact) (now : Time) : Turn :=
  match publisher.pending with
  | some (publication :: rest) =>
    let task : Task :=
      { serial := publisher.nextSerial, generation := publisher.generation, publication
        record := .own node publication.key publication.value now }
    { publisher := { publisher with
        pending := some rest, inFlight := some task.serial, tasks := publisher.tasks ++ [task]
        nextSerial := publisher.nextSerial + 1 }
      task := some task.serial }
  | _ => { publisher := { publisher with pending := none, inFlight := none } }

/-- Take a turn. A node that is not ready halts; a run in progress goes on undisturbed; otherwise
a run of the given snapshot is begun, unless that is empty. -/
def tick (publisher : Publisher) (ready : Bool) (snapshot : List Publication) (node : Contact)
    (now : Time) : Turn :=
  if !ready then publisher.halt
  else if publisher.isRunning || snapshot.isEmpty then { publisher }
  else
    { publisher with generation := publisher.generation + 1, pending := some snapshot }.advance
      node now

/-- Begin a task: answer the record that the network is to be called with. A task that has been
given up is over without a call. -/
def begin (publisher : Publisher) (serial : Nat) : Option Record × Publisher :=
  match publisher.task? serial with
  | none => (none, publisher)
  | some task =>
    if task.aborted then (none, publisher.discard serial)
    else
      match task.stage with
      | .queued => (some task.record, publisher.modifyTask serial fun task =>
          { task with stage := .awaiting })
      | _ => (none, publisher)

/-- The network answers a task that waits for it. -/
def answer (publisher : Publisher) (serial : Nat) (result : Except Error Receipt) : Publisher :=
  publisher.modifyTask serial fun task =>
    match task.stage with
    | .awaiting => { task with stage := .answered result }
    | _ => task

/-- Take the outcome of a store into the run that it belongs to, if that is still in progress. -/
def complete (publisher : Publisher) (generation : UInt64) (publication : Publication)
    (result : Except Error Receipt) (node : Contact) (now : Time) : Turn :=
  if publisher.generation ≠ generation || !publisher.isRunning then { publisher }
  else
    match result with
    | .ok receipt =>
      { publisher.advance node now with
        stored := some (publication, receipt), updates := [⟨.published, 1⟩] }
    | .error _ =>
      -- a failure ends the run within its generation
      { publisher := { publisher with pending := none, inFlight := none }
        updates := [⟨.failed, 1⟩] }

/-- Conclude a task with the network's answer. -/
def conclude (publisher : Publisher) (serial : Nat) (result : Except Error Receipt)
    (node : Contact) (now : Time) : Turn :=
  match publisher.task? serial with
  | none => { publisher }
  | some task =>
    (publisher.discard serial).complete task.generation task.publication result node now

/-- Go on with a task whose answer has come. A task that has been given up is over, and its answer
is dropped. -/
def resume (publisher : Publisher) (serial : Nat) (node : Contact) (now : Time) : Turn :=
  match publisher.task? serial with
  | none => { publisher }
  | some task =>
    if task.aborted then { publisher := publisher.discard serial }
    else
      match task.stage with
      | .answered result => publisher.conclude serial result node now
      | _ => { publisher }

end Publisher

end OverlayStore
