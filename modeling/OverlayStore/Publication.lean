import OverlayStore.Duration
import OverlayStore.Table
import OverlayStore.Value
import OverlayStore.Contact

/-!
# Publications

A publication is a value that a node owns and keeps alive in the network under a key. It has an
identity of its own: two publications of the same value under the same key are stamped apart. The
ledger holds the stamps, the receipt is what a store into the network brings back.
-/

namespace OverlayStore

/-- A value that a node keeps published. -/
structure Publication where
  /-- What tells this publication from all others. -/
  id : Nat
  /-- The key that the value is stored under. -/
  key : Key
  /-- The value. -/
  value : Value
  deriving DecidableEq

/-- The outcome of storing one record into the network. -/
structure Receipt where
  /-- The key of the record. -/
  key : Key
  /-- The contacts that accepted the record. -/
  locations : List Contact
  /-- The contacts that were asked and did not accept it. -/
  failed : List Contact := []
  deriving DecidableEq

/-- How many contacts accepted the record. -/
def Receipt.count (receipt : Receipt) : Nat := receipt.locations.length

/-- What is known about the last successful store of a publication. -/
structure Stamp where
  /-- When it was stored, if ever. -/
  time : Option Time := none
  /-- How many contacts accepted it. -/
  locations : Nat := 0
  deriving DecidableEq, Repr

/-- The stamps of publications, by identity. -/
structure Ledger where
  /-- The stamps of the publications that have been stored. -/
  stamps : Table Nat Stamp := .empty

namespace Ledger

/-- The stamp of a publication. -/
def stampOf (ledger : Ledger) (publication : Publication) : Stamp :=
  (ledger.stamps.find? publication.id).getD {}

/-- Note a successful store. -/
def stamp (ledger : Ledger) (publication : Publication) (now : Time) (locations : Nat) : Ledger :=
  ⟨ledger.stamps.insert publication.id ⟨some now, locations⟩⟩

/-- A stamp replaces that of its own publication and no other. -/
theorem stampOf_stamp (ledger : Ledger) (publication other : Publication) (now : Time)
    (locations : Nat) :
    (ledger.stamp publication now locations).stampOf other =
      if other.id = publication.id then ⟨some now, locations⟩ else ledger.stampOf other := by
  simp only [stampOf, stamp, Table.find?_insert]
  split <;> rfl

end Ledger

end OverlayStore
