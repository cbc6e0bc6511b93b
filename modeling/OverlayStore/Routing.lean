import OverlayStore.Contact

/-!
# Routing

What a node knows of the overlay: its own contact, and which of the contacts it knows are the
closest to a key. Contacts at the same distance keep the order in which they became known.
-/

namespace OverlayStore

/-- The first contact lies no farther from the key than the second. -/
def Contact.notFarther (key : Key) (a b : Contact) : Bool :=
  (a.id.distance key).notAfter (b.id.distance key)

/-- The contacts in order of their distance from a key. -/
def Contact.byDistance (key : Key) (contacts : List Contact) : List Contact :=
  contacts.mergeSort (Contact.notFarther key)

/-- A node's view of the overlay. -/
structure Routing where
  /-- The node's own contact. -/
  node : Contact
  /-- Up to so many known contacts closest to a key, the closest first. -/
  select : Key → Nat → List Contact

namespace Routing

/-- The view of a node that knows itself and some other contacts. -/
def ofContacts (node : Contact) (others : List Contact) : Routing where
  node
  select key count := (Contact.byDistance key (node :: others)).take count

/-- The view of a node that is always told the same contacts in the same order. -/
def fixed (node : Contact) (contacts : List Contact) : Routing where
  node
  select _ count := contacts.take count

end Routing

end OverlayStore
