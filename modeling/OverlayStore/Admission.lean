import OverlayStore.Bag
import OverlayStore.Config.Storage

/-!
# Admission

Who may store what. Flood limits bound the number of remote records from one IPv4 address and from
one /24 network, and indirect records may be required to have a routable creator. What passes is
put to an admission policy, which sees figures of the database, the bag the record would go to, and
the record.
-/

namespace OverlayStore

/-- The fixed limits of a database. -/
structure FloodLimits where
  /-- The creators of indirect remote records need a routable address. -/
  validateCreator : Bool := false
  /-- How many remote records may come from one IPv4 address. -/
  maxPerAddress : Option Nat := none
  /-- How many remote records may come from one /24 network. -/
  maxPerNetwork : Option Nat := none
  deriving DecidableEq, Repr

/-- The limits that the settings ask for. -/
def FloodLimits.ofSettings (settings : Config.Storage) : FloodLimits where
  validateCreator := settings.validateCreator
  maxPerAddress := if settings.limitPerAddress then some settings.maxPerAddress else none
  maxPerNetwork := if settings.limitPerNetwork then some settings.maxPerNetwork else none

/-- The IPv4 address or network, as the mask says, that a record is charged to. Local records, and
those whose creator has no IPv4 form, are charged to none. -/
def Record.charge (mask : UInt32) (record : Record) : Option UInt32 :=
  if record.isLocal then none else record.creator.maskedIpv4 mask

/-- The creator of an indirect record could be reached by anyone. -/
def Record.hasRoutableCreator (record : Record) : Bool :=
  record.creator.hasValidAddress && !record.creator.hasPrivateAddress

/-- The record is charged like the one it replaces, if there is one. -/
def Record.sameOrigin (mask : UInt32) (previous : Option Record) (record : Record) : Bool :=
  match previous.bind (Record.charge mask) with
  | some origin => record.creator.maskedIpv4 mask = some origin
  | none => false

namespace Admission

/-- What a policy is told about the database. -/
structure View where
  /-- The number of primary keys. -/
  keyCount : Nat
  /-- The number of records. -/
  valueCount : Nat
  /-- Whether there is a record under a primary and a secondary key. -/
  contains : Key → Key → Bool
  /-- How many remote records come from the address of a record's creator. -/
  perAddress : Record → Nat
  /-- How many remote records come from the network of a record's creator. -/
  perNetwork : Record → Nat

/-- A policy decides about a record, given a view of the database and the bag of its key. -/
abbrev Policy := View → Option Bag → Record → Bool

/-- The number of creators under one key that the standard policy allows by default. -/
def defaultMaxPerKey : Nat := 5

/-- The standard policy. Local records are always let in. A remote record needs room in its bag, or
replaces a remote record that was created from the same address and port. -/
def standard (maxPerKey : Nat) : Policy := fun _ bag record =>
  if record.isLocal then true
  else
    match bag with
    | none => true
    | some bag =>
      match bag.find? record.secondary with
      | none => bag.size < maxPerKey
      | some existing =>
        !existing.isLocal && existing.creator.address = record.creator.address

end Admission

end OverlayStore
