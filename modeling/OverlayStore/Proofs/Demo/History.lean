import OverlayStore.Proofs.Demo.Consistency
import OverlayStore.Proofs.Node.SmallSteps

/-!
# Histories of a demo

Whatever happens to a node in a loopback network, the books stay in order: any job may be done at
any time, the publisher may take a turn, the node may be started and stopped, and all that the books
are not about may change as it likes (`Demo.Consistent.afterAll`). The schedule of a demo is one of
these histories (`Demo.becomes_run`).
-/

namespace OverlayStore.Demo

/-- What can happen to a node whose books are kept. -/
inductive Event where
  /-- A job is done, whether it waits in the queue or not. -/
  | work (job : Job)
  /-- The publisher takes its turn. -/
  | turn
  /-- The node is started. -/
  | start
  /-- The node is stopped. -/
  | stop
  /-- All that the books are not about is another from now on: the clock, the queue of jobs, the
  schedules, the settings and the records of the node itself. -/
  | change (other : Node Loopback Shelf)

/-- The node after an event. -/
def Event.apply (node : Node Loopback Shelf) : Event → Node Loopback Shelf
  | .work job => node.runJob {} job
  | .turn => node.publish
  | .start => node.start.2
  | .stop => node.stop
  | .change other => { other with
      network := node.network
      catalogue := node.catalogue
      publisher := node.publisher
      ledger := node.ledger }

namespace Consistent

variable {origin : Loopback} {publications : List Publication} {node : Node Loopback Shelf}

/-- Every event leaves the books in order. -/
theorem after (h : Consistent origin publications node) (hdistinct : Distinct publications)
    (event : Event) : Consistent origin publications (event.apply node) := by
  cases event with
  | work job => exact h.runJob hdistinct job
  | turn => exact h.publish
  | start => exact h.start
  | stop => exact h.stop
  | change other => exact h.of_eq rfl rfl rfl rfl

/-- Every history leaves the books in order. -/
theorem afterAll (h : Consistent origin publications node) (hdistinct : Distinct publications)
    (history : List Event) : Consistent origin publications (history.foldl Event.apply node) := by
  induction history generalizing node with
  | nil => exact h
  | cons event history ih => exact ih (h.after hdistinct event)

end Consistent

/-! ## The schedule of a demo -/

/-- A node becomes whatever differs from it only in what the books are not about. -/
theorem becomes_of_eq {node other : Node Loopback Shelf} (hnetwork : other.network = node.network)
    (hcatalogue : other.catalogue = node.catalogue) (hpublisher : other.publisher = node.publisher)
    (hledger : other.ledger = node.ledger) : node.Becomes Event.apply other := by
  refine ⟨[.change other], ?_⟩
  rw [List.foldl_cons, List.foldl_nil, Event.apply, ← hnetwork, ← hcatalogue, ← hpublisher,
    ← hledger]

/-- The small steps of a node are histories. -/
theorem stepClosed_becomes : Node.StepClosed {} (Node.Becomes Event.apply) where
  refl := .refl
  trans := .trans
  runJob node job := .of_event node (Event.work job)
  queue _ _ := becomes_of_eq rfl rfl rfl rfl
  clock _ _ _ _ := becomes_of_eq rfl rfl rfl rfl

end OverlayStore.Demo
