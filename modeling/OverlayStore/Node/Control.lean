import OverlayStore.Node

/-!
# Controlling a node

Starting and stopping a node's recurring work, and telling it that its contact has changed.
-/

namespace OverlayStore

/-- Why recurring work cannot be started. -/
inductive StartFault where
  /-- The publisher has a run in progress that no schedule has begun. -/
  | runInProgress
  deriving DecidableEq, Repr

namespace Node

variable {ν σ : Type}

/-- The sweeper or the publisher is scheduled. -/
def isRunning (node : Node ν σ) : Bool :=
  node.sweeping.isRunning || node.publishing.isRunning

/-- Schedule the sweeper, unless it is scheduled. -/
def startSweeper (node : Node ν σ) : Node ν σ :=
  if node.sweeping.isRunning then node
  else
    { node with
      sweeping := node.sweeping.start node.nextSeries
      nextSeries := node.nextSeries + 1 }.enqueue (.wake .sweep node.nextSeries)

/-- End the sweeper's schedule. -/
def stopSweeper (node : Node ν σ) : Node ν σ :=
  { node with sweeping := node.sweeping.stop }

/-- Let in a guest's sweeper, which has delays of its own and is not scheduled yet. -/
def admitGuestSweeper (node : Node ν σ) (timetable : Timetable) : Node ν σ :=
  { node with guestSweeping := some { timetable } }

/-- Schedule the guest's sweeper, if there is one that is not scheduled. -/
def startGuestSweeper (node : Node ν σ) : Node ν σ :=
  match node.guestSweeping with
  | none => node
  | some sweeping =>
    if sweeping.isRunning then node
    else
      { node with
        guestSweeping := some (sweeping.start node.nextSeries)
        nextSeries := node.nextSeries + 1 }.enqueue (.wake .guestSweep node.nextSeries)

/-- Send the guest's sweeper away. -/
def dropGuestSweeper (node : Node ν σ) : Node ν σ :=
  { node with guestSweeping := none }

/-- Schedule the publisher, unless it is scheduled. A run in progress stands in the way. -/
def startPublisher (node : Node ν σ) : Except StartFault Unit × Node ν σ :=
  if node.publishing.isRunning then (.ok (), node)
  else if node.publisher.isRunning then (.error .runInProgress, node)
  else
    (.ok (), { node with
      publishing := node.publishing.start node.nextSeries
      nextSeries := node.nextSeries + 1 }.enqueue (.wake .publish node.nextSeries))

/-- Schedule the sweeper, then the publisher. -/
def start (node : Node ν σ) : Except StartFault Unit × Node ν σ :=
  node.startSweeper.startPublisher

/-- Forget the records of a former identity, and tell all sources. -/
def changeIdentity [Source σ] (node : Node ν σ) : Node ν σ :=
  let node := (node.onDatabase Database.clear).2
  { node with catalogue := node.catalogue.noteContactChange }

/-- Tell all sources that the node's address changed. The records stay. -/
def changeAddress [Source σ] (node : Node ν σ) : Node ν σ :=
  { node with catalogue := node.catalogue.noteContactChange }

variable [Network ν]

/-- End the publisher's schedule and any run in progress. -/
def stopPublisher (node : Node ν σ) : Node ν σ :=
  { node with publishing := node.publishing.stop }.haltPublisher

/-- End all recurring work of the node itself. -/
def stop (node : Node ν σ) : Node ν σ :=
  node.stopPublisher.stopSweeper

end Node

end OverlayStore
