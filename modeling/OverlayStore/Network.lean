import OverlayStore.Error
import OverlayStore.Metrics
import OverlayStore.Publication
import OverlayStore.Record
import OverlayStore.Routing

/-!
# Networks

What a node needs from the network it runs in: its own contact there, whether it has joined, the
contacts closest to a key, and a way to have one record stored at the right places. A network may
answer a store at once or leave a task waiting for the answer.
-/

namespace OverlayStore

/-- How a network reacts to a store. -/
structure Network.Reply (ν : Type) where
  /-- The answer, unless it is given later. -/
  answer : Option (Except Error Receipt)
  /-- The network afterwards. -/
  network : ν
  /-- What was measured. -/
  updates : List Metric.Update := []

/-- What a node needs from a network with states of type `ν`. -/
class Network (ν : Type) where
  /-- The node's contact. -/
  contact : ν → Contact
  /-- The node has joined the network. -/
  isBootstrapped : ν → Bool
  /-- The node is joining the network. -/
  isBootstrapping : ν → Bool
  /-- The node's view of the overlay. -/
  routing : ν → Routing
  /-- Store a record on behalf of a task, if it is one of the publisher's, at a time. -/
  store : Record → Option Nat → Time → ν → Network.Reply ν
  /-- A task no longer waits for an answer. -/
  forget : Nat → ν → ν

/-- The network can be used for publishing: the node has joined and is not joining again. -/
def Network.isReady {ν : Type} [Network ν] (network : ν) : Bool :=
  isBootstrapped network && !isBootstrapping network

end OverlayStore
