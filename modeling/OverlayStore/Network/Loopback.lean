import OverlayStore.Database
import OverlayStore.Network

/-!
# Loopback networks

An overlay inside one program, in which every peer is a database. A store goes to the peers closest
to the record's key, as it would after a look-up in a real network. The peers hold the record on
behalf of its creator and never as one of their own, and they admit it by the usual rules.
-/

namespace OverlayStore

/-- A peer of a loopback network. -/
structure Peer where
  /-- The peer's contact. -/
  contact : Contact
  /-- What the peer holds. -/
  database : Database

/-- The peer with an index, which holds nothing yet. -/
def Peer.ofIndex (settings : Config.Storage) (index : Nat) : Peer where
  contact :=
    ⟨Key.ofText s!"loopback-peer-{index}",
      .ofOctets 82 10 (UInt8.ofNat (index / 250)) (UInt8.ofNat (index % 250) + 1) 4000⟩
  database :=
    (Database.ofSettings settings).setPolicy (some (Admission.standard settings.maxPerKey))

/-- An overlay of peers inside one program. -/
structure Loopback where
  /-- The contact of the node that uses the network. -/
  contact : Contact
  /-- The peers, by index. -/
  peers : List Peer
  /-- How many peers hold a record. -/
  replication : Nat
  /-- The node has joined. -/
  bootstrapped : Bool := true

namespace Loopback

/-- The contact of the node that uses a loopback network. -/
def localContact : Contact :=
  ⟨Key.ofText "loopback-local", .ofOctets 82 9 0 1 4000⟩

/-- A network of a number of peers. -/
def ofSettings (count : Nat) (settings : Config.Storage) : Loopback where
  contact := localContact
  peers := (List.range count).map (Peer.ofIndex settings)
  replication := settings.replication

/-- The peers and their indices in order of their distance from a key. -/
def ranked (network : Loopback) (key : Key) : List (Peer × Nat) :=
  network.peers.zipIdx.mergeSort fun a b => Contact.notFarther key a.1.contact b.1.contact

/-- The peers closest to a key, with their indices. -/
def closest (network : Loopback) (key : Key) (count : Nat) : List (Peer × Nat) :=
  (network.ranked key).take count

/-- The contacts closest to a key, the node's own included. -/
def select (network : Loopback) (key : Key) (count : Nat) : List Contact :=
  (Contact.byDistance key (network.peers.map Peer.contact ++ [network.contact])).take count

/-- How one peer reacted to a record. -/
structure Offer where
  /-- The index of the peer. -/
  index : Nat
  /-- The contact of the peer. -/
  contact : Contact
  /-- What became of the record. -/
  outcome : Database.Outcome Bool

/-- The record as the peers hold it. -/
def heldAs (network : Loopback) (record : Record) (now : Time) : Record :=
  { creator := record.creator, sender := network.contact, key := record.key
    value := record.value, created := now, isLocal := false }

/-- Offer a record to the peers that should hold it. -/
def offers (network : Loopback) (record : Record) (now : Time) : List Offer :=
  (network.closest record.key network.replication).map fun (peer, index) =>
    ⟨index, peer.contact, peer.database.store (network.heldAs record now)⟩

/-- The network after some offers. -/
def afterOffers (network : Loopback) (offers : List Offer) : Loopback :=
  { network with
    peers := network.peers.zipIdx.map fun (peer, index) =>
      match offers.find? fun offer => offer.index = index with
      | some offer => { peer with database := offer.outcome.database }
      | none => peer }

/-- Store a record at the peers closest to its key. It is an error if none of them accepts it. -/
def store (network : Loopback) (record : Record) (now : Time) : Network.Reply Loopback :=
  if !network.bootstrapped then ⟨some (.error .notBootstrapped), network, []⟩
  else
    let offers := network.offers record now
    let (accepted, refused) := offers.partition fun offer => offer.outcome.result
    let answer : Except Error Receipt :=
      if accepted.isEmpty then .error (.store s!"no peer accepted {record.key.short}")
      else .ok ⟨record.key, accepted.map Offer.contact, refused.map Offer.contact⟩
    ⟨some answer, network.afterOffers offers,
      offers.flatMap fun offer => offer.outcome.updates⟩

end Loopback

instance : Network Loopback where
  contact := Loopback.contact
  isBootstrapped := Loopback.bootstrapped
  isBootstrapping _ := false
  routing network := ⟨network.contact, network.select⟩
  store record _ now network := network.store record now
  forget _ network := network

end OverlayStore
