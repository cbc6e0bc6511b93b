import OverlayStore.Network

/-!
# Scripted networks

A network that does as it is told. It remembers all records that it was asked to store. Stores
succeed at once, fail at once, or wait until they are answered by hand, the oldest first.
-/

namespace OverlayStore

/-- How a scripted network answers stores. -/
inductive Script where
  /-- Stores wait until they are answered by hand. -/
  | manual
  /-- Stores succeed at once, at this many example contacts. -/
  | succeed (locations : Nat)
  /-- Stores fail at once. -/
  | fail
  deriving DecidableEq, Repr

/-- A network that does as it is told. -/
structure Scripted where
  /-- The node's contact. -/
  contact : Contact
  /-- The other contacts that the node knows. -/
  known : List Contact := []
  /-- The node has joined. -/
  bootstrapped : Bool := true
  /-- The node is joining. -/
  bootstrapping : Bool := false
  /-- How stores are answered. -/
  script : Script := .manual
  /-- All records that were to be stored, in order. -/
  calls : List Record := []
  /-- The tasks that wait for an answer and their keys, the oldest first. -/
  waiting : List (Nat × Key) := []

namespace Scripted

/-- The wording of a scripted failure. -/
def failure : Error := .store "fake network failure"

/-- The receipt for a store at a number of example contacts. -/
def receipt (key : Key) (locations : Nat) : Receipt :=
  { key, locations := Contact.samples locations }

/-- The oldest task that waits for an answer, with its key, taken out of the queue. -/
def takeOldest (network : Scripted) : Option ((Nat × Key) × Scripted) :=
  match network.waiting with
  | [] => none
  | oldest :: rest => some (oldest, { network with waiting := rest })

/-- Answer or queue a store. -/
def store (record : Record) (task : Option Nat) (network : Scripted) : Network.Reply Scripted :=
  let called := { network with calls := network.calls ++ [record] }
  match network.script with
  | .succeed locations => ⟨some (.ok (receipt record.key locations)), called, []⟩
  | .fail => ⟨some (.error failure), called, []⟩
  | .manual =>
    ⟨none, { called with
      waiting := network.waiting ++ (task.toList.map fun task => (task, record.key)) }, []⟩

end Scripted

instance : Network Scripted where
  contact := Scripted.contact
  isBootstrapped := Scripted.bootstrapped
  isBootstrapping := Scripted.bootstrapping
  routing network := .ofContacts network.contact network.known
  store record task _ network := network.store record task
  forget task network :=
    { network with waiting := network.waiting.filter fun entry => entry.1 ≠ task }

end OverlayStore
