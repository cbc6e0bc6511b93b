import OverlayStore.Key
import OverlayStore.Net.Address

/-!
# Contacts

A contact is a node identifier together with the address under which the node is reached. The
identifier of a record's creator is the record's second key, and the IPv4 form of the creator's
address is what the flood limits count.
-/

namespace OverlayStore

/-- A node and its address. -/
structure Contact where
  /-- The node's identifier. -/
  id : Key
  /-- The node's address. -/
  address : Net.Address
  deriving DecidableEq

namespace Contact

/-- The mask that keeps a whole IPv4 address. -/
def addressMask : UInt32 := 0xFFFFFFFF

/-- The mask that keeps the /24 network of an IPv4 address. -/
def networkMask : UInt32 := 0xFFFFFF00

/-- The contact can be reached from outside: it has a port and a specified address. -/
def hasValidAddress (contact : Contact) : Bool :=
  contact.address.port != 0 && !contact.address.ip.isUnspecified

/-- The contact's address is private, loopback or link-local. -/
def hasPrivateAddress (contact : Contact) : Bool :=
  contact.address.ip.isPrivate

/-- The masked IPv4 form of the contact's address, if it has an IPv4 form. -/
def maskedIpv4 (contact : Contact) (mask : UInt32) : Option UInt32 :=
  contact.address.ip.v4Form?.map (· &&& mask)

/-- The text form: the short identifier and the address. -/
def toText (contact : Contact) : String :=
  contact.id.short ++ "@" ++ contact.address.toText

/-- A contact named for an example: its identifier is the name's key, and its address is made from
the first bytes of that key. -/
def sample (name : String) : Contact :=
  let id := Key.ofText name
  let octet (i : Nat) : UInt8 := id.bytes.getD i 0
  ⟨id, .ofOctets 82 (octet 0) (octet 1) (max (octet 2) 1) 4000⟩

/-- The first `count` numbered example contacts. -/
def samples (count : Nat) : List Contact :=
  (List.range count).map fun i => sample s!"peer-{i}"

end Contact

end OverlayStore
