import OverlayStore.Proofs.Bytes
import OverlayStore.Proofs.Network.Loopback
import OverlayStore.Proofs.Routing

/-!
# What the receipts of a loopback network tell

A store asks the peers closest to the key, and each of them decides by its own limits and policy.
The receipt names those that have accepted the record and those that have refused it, and what it
tells is what has happened to the peers (`Loopback.Exact`). A store that is answered by an error has
changed nothing. Whatever was stored before, no peer holds a record as one of its own
(`Loopback.Remote`).
-/

namespace OverlayStore

/-! ## Addresses -/

/-- IPv4 addresses are told apart by their octets. -/
theorem Net.Ip.ofOctets_eq_iff {a b c d a' b' c' d' : UInt8} :
    ofOctets a b c d = ofOctets a' b' c' d' ↔ a = a' ∧ b = b' ∧ c = c' ∧ d = d' := by
  constructor
  · intro h
    have hword : Bytes.word32 a b c d = Bytes.word32 a' b' c' d' := v4.inj h
    have hbytes := congrArg Bytes.ofWord32 hword
    rw [Bytes.ofWord32_word32, Bytes.ofWord32_word32] at hbytes
    simpa using hbytes
  · rintro ⟨rfl, rfl, rfl, rfl⟩
    rfl

/-! ## Databases for others -/

/-- A well-formed database in which no record is local. -/
structure Database.Remote (db : Database) : Prop where
  /-- The database is well formed. -/
  wellFormed : db.WellFormed
  /-- The records belong to others. -/
  remote : ∀ held ∈ db.records, held.isLocal = false

namespace Database.Remote

theorem fresh (limits : FloodLimits) (loadRule : LoadRule) (policy : Option Admission.Policy) :
    ({ limits, loadRule, policy } : Database).Remote where
  wellFormed := .fresh limits loadRule policy
  remote := by
    intro held hheld
    cases hheld

/-- A record of somebody else that is stored leaves no record local. -/
theorem store {db : Database} (h : db.Remote) {record : Record} (hremote : record.isLocal = false) :
    (db.store record).database.Remote where
  wellFormed := h.wellFormed.serve (.store record)
  remote := by
    intro held hheld
    rcases h.wellFormed.mem_records_store hheld with hbefore | ⟨rfl, -⟩
    · exact h.remote held hbefore
    · exact hremote

end Database.Remote

namespace Loopback

/-! ## Networks over time -/

/-- What happens to a network. -/
inductive Event where
  /-- A record is to be stored. -/
  | store (record : Record) (now : Time)
  /-- The node joins the network or drops out of it. -/
  | setBootstrapped (bootstrapped : Bool)

/-- A network after an event. -/
def react (network : Loopback) : Event → Loopback
  | .store record now => (network.store record now).network
  | .setBootstrapped bootstrapped => { network with bootstrapped }

/-- A network after some events. -/
def afterAll (network : Loopback) (events : List Event) : Loopback :=
  events.foldl react network

variable {network : Loopback} {record : Record} {now : Time} {key : Key}

/-- Where records go: the contacts of the peers, and how many of them a record is sent to. -/
def layout (network : Loopback) : List Contact × Nat :=
  (network.peers.map Peer.contact, network.replication)

/-- An event leaves the peers and the replication as they are. -/
theorem layout_react (network : Loopback) (event : Event) :
    (network.react event).layout = network.layout := by
  cases event with
  | store record now =>
    cases hjoined : network.bootstrapped with
    | false => simp [react, Loopback.store, hjoined]
    | true =>
      rw [react, layout, contacts_store hjoined, network_store hjoined]
      rfl
  | setBootstrapped bootstrapped => rfl

/-- No history changes where records go. -/
@[simp]
theorem layout_afterAll (network : Loopback) (events : List Event) :
    (network.afterAll events).layout = network.layout := by
  induction events generalizing network with
  | nil => rfl
  | cons event events ih => exact (ih (network.react event)).trans (network.layout_react event)

/-! ## The nearest peers -/

/-- Some peers, given with their indices, are the nearest ones to a key: there are as many of them
as asked for, or all if there are not so many, the closest come first, and nobody else is closer. -/
structure Nearest (peers : List Peer) (key : Key) (count : Nat) (nearest : List (Peer × Nat)) :
    Prop where
  /-- These are peers. -/
  known : ∀ entry ∈ nearest, entry ∈ peers.zipIdx
  /-- No peer is named twice. -/
  nodup : nearest.Nodup
  /-- All peers are named unless there are more than asked for. -/
  length_eq : nearest.length = min count peers.length
  /-- The closest come first. -/
  sorted : nearest.Pairwise fun a b =>
    a.1.contact.distanceTo key ≤ b.1.contact.distanceTo key
  /-- No other peer is closer. -/
  closest : ∀ entry ∈ nearest, ∀ other ∈ peers.zipIdx, other ∉ nearest →
    entry.1.contact.distanceTo key ≤ other.1.contact.distanceTo key

/-- In the ranking, closer peers come earlier. -/
theorem pairwise_ranked (network : Loopback) (key : Key) :
    (network.ranked key).Pairwise fun a b =>
      a.1.contact.distanceTo key ≤ b.1.contact.distanceTo key :=
  Contact.pairwise_mergeSort key (fun entry : Peer × Nat => entry.1.contact) network.peers.zipIdx

/-- The closest peers are the nearest ones. -/
theorem nearest_closest (network : Loopback) (key : Key) (count : Nat) :
    Nearest network.peers key count (network.closest key count) where
  known _ := mem_zipIdx_of_mem_closest
  nodup := network.nodup_closest key count
  length_eq := by simp [closest, ranked]
  sorted := (network.pairwise_ranked key).sublist (List.take_sublist _ _)
  closest := by
    intro entry hentry other hother hnot
    have hranked : other ∈ network.ranked key := List.mem_mergeSort.mpr hother
    have hle := rel_of_mem_take (network.pairwise_ranked key) hentry hranked hnot
    exact hle

/-- The contacts of the nearest peers are different from each other if those of all peers are. -/
theorem Nearest.nodup_contacts {peers : List Peer} {count : Nat} {nearest : List (Peer × Nat)}
    (h : Nearest peers key count nearest) (hdistinct : (peers.map Peer.contact).Nodup) :
    (nearest.map fun entry => entry.1.contact).Nodup := by
  rw [← List.zipIdx_map_fst 0 peers, List.map_map] at hdistinct
  apply h.nodup.map_on
  intro entry hentry other hother hsame
  exact List.inj_on_of_nodup_map hdistinct (h.known entry hentry) (h.known other hother) hsame

/-! ## Who accepts a record -/

/-- A peer accepts a record. -/
def accepts (network : Loopback) (record : Record) (now : Time) (entry : Peer × Nat) : Bool :=
  (entry.1.database.store (network.heldAs record now)).result

/-- The peers that a record is sent to and that accept it. -/
def accepting (network : Loopback) (record : Record) (now : Time) : List (Peer × Nat) :=
  (network.closest record.key network.replication).filter (network.accepts record now)

/-- The peers that a record is sent to and that refuse it. -/
def refusing (network : Loopback) (record : Record) (now : Time) : List (Peer × Nat) :=
  (network.closest record.key network.replication).filter fun entry =>
    !network.accepts record now entry

/-- The answer of a node that has joined names the peers that accept the record and those that
refuse it. -/
theorem answer_of_bootstrapped (h : network.bootstrapped = true) (record : Record) (now : Time) :
    (network.store record now).answer = some
      (if (network.accepting record now).isEmpty then
        .error (.store s!"no peer accepted {record.key.short}")
      else
        .ok ⟨record.key, (network.accepting record now).map fun entry => entry.1.contact,
          (network.refusing record now).map fun entry => entry.1.contact⟩) := by
  rw [(store_of_bootstrapped h record now).2, offers, List.filter_map, List.filter_map,
    List.isEmpty_map, List.map_map, List.map_map]
  rfl

/-- Each of the closest peers either accepts a record or refuses it. -/
theorem accepting_append_refusing_perm (network : Loopback) (record : Record) (now : Time) :
    (network.accepting record now ++ network.refusing record now).Perm
      (network.closest record.key network.replication) :=
  List.filter_append_perm _ _

/-- A peer that does not accept the record stays as it is, whether it was asked or not. -/
theorem peerAfter_of_notMem {entry : Peer × Nat} (hentry : entry ∈ network.peers.zipIdx)
    (hnot : entry ∉ network.accepting record now) :
    network.peerAfter record now entry = entry.1 := by
  unfold peerAfter
  split
  · rename_i hindex
    have hclosest := (mem_closest_iff hentry).mpr hindex
    -- the peer was asked, so it has refused
    have hrefused : network.accepts record now entry = false :=
      eq_false_of_ne_true fun haccepts => hnot (List.mem_filter.mpr ⟨hclosest, haccepts⟩)
    rw [Database.database_store_of_refused _ hrefused]
  · rfl

/-- A store leaves every peer in its place. -/
theorem getElem?_peers_store (h : network.bootstrapped = true) {entry : Peer × Nat}
    (hentry : entry ∈ network.peers.zipIdx) :
    (network.store record now).network.peers[entry.2]? =
      some (network.peerAfter record now entry) := by
  rw [List.mem_zipIdx_iff_getElem?] at hentry
  rw [network_store h, List.getElem?_map, List.getElem?_zipIdx, hentry]
  simp

/-- Where nobody accepts the record, nothing changes. -/
theorem network_store_of_accepting_eq_nil (h : network.bootstrapped = true)
    (hnobody : network.accepting record now = []) :
    (network.store record now).network = network := by
  have hpeers : network.peers.zipIdx.map (network.peerAfter record now) = network.peers := by
    -- the peers are looked at with their indices, as they are in the store
    conv_rhs => rw [← List.zipIdx_map_fst 0 network.peers]
    apply List.map_congr_left
    intro entry hentry
    apply peerAfter_of_notMem hentry
    simp [hnobody]
  rw [network_store h, hpeers]

/-! ## Records of others only -/

/-- No peer has a record of its own. -/
def Remote (network : Loopback) : Prop :=
  ∀ peer ∈ network.peers, peer.database.Remote

namespace Remote

theorem of_mem_zipIdx (h : network.Remote) {entry : Peer × Nat}
    (hentry : entry ∈ network.peers.zipIdx) : entry.1.database.Remote :=
  h entry.1 (List.fst_mem_of_mem_zipIdx hentry)

/-- In a new network no peer has any record. -/
theorem ofSettings (count : Nat) (settings : Config.Storage) :
    (Loopback.ofSettings count settings).Remote := by
  intro peer hpeer
  obtain ⟨index, -, rfl⟩ := List.mem_map.mp hpeer
  exact .fresh _ _ _

/-- What peers are sent is never their own. -/
theorem store (h : network.Remote) (record : Record) (now : Time) :
    (network.store record now).network.Remote := by
  cases hjoined : network.bootstrapped with
  | false =>
    have hsame : (network.store record now).network = network := by simp [Loopback.store, hjoined]
    rwa [hsame]
  | true =>
    rw [network_store hjoined]
    -- a peer after the store is one from before, and what it was sent is not its own
    intro peer hpeer
    obtain ⟨entry, hentry, rfl⟩ := List.mem_map.mp hpeer
    unfold peerAfter
    split
    · exact (h.of_mem_zipIdx hentry).store rfl
    · exact h.of_mem_zipIdx hentry

theorem react (h : network.Remote) (event : Event) : (network.react event).Remote := by
  cases event with
  | store record now => exact h.store record now
  | setBootstrapped bootstrapped => exact h

theorem afterAll (h : network.Remote) (events : List Event) : (network.afterAll events).Remote := by
  induction events generalizing network with
  | nil => exact h
  | cons event events ih => exact ih (h.react event)

end Remote

/-! ## Receipts -/

/-- A peer before and after it has accepted a record: now it holds the value for the creator. An
empty value has taken away what the peer held for the creator. -/
structure Serves (record : Record) (before after : Peer) : Prop where
  /-- It is the same peer. -/
  contact : after.contact = before.contact
  /-- The value is held on behalf of the creator. -/
  held : record.value.isEmpty = false →
    ∃ held, after.database.find? record.key record.creator.id = some held ∧
      held.isLocal = false ∧ held.creator = record.creator ∧ held.value = record.value
  /-- An empty value removes. -/
  removed : record.value.isEmpty = true →
    before.database.contains record.key record.creator.id = true ∧
      after.database.contains record.key record.creator.id = false

/-- A peer that accepts a record serves it from then on. -/
theorem serves_peerAfter {entry : Peer × Nat} (hwellFormed : entry.1.database.WellFormed)
    (hentry : entry ∈ network.accepting record now) :
    Serves record entry.1 (network.peerAfter record now entry) := by
  obtain ⟨hclosest, haccepts⟩ := List.mem_filter.mp hentry
  have hindex := (mem_closest_iff (mem_zipIdx_of_mem_closest hclosest)).mp hclosest
  -- an accepted record stands in its place, and an accepted deletion leaves it empty
  have hfound : (entry.1.database.store (network.heldAs record now)).database.find? record.key
      record.creator.id =
        if record.value.isEmpty then none else some (network.heldAs record now) :=
    hwellFormed.find?_store_of_accepted haccepts
  rw [peerAfter, if_pos hindex]
  constructor
  · rfl
  · intro hvalue
    rw [if_neg (ne_true_of_eq_false hvalue)] at hfound
    exact ⟨network.heldAs record now, hfound, rfl, rfl, rfl⟩
  · intro hvalue
    rw [if_pos hvalue] at hfound
    constructor
    · have hresult : network.accepts record now entry =
          entry.1.database.contains record.key record.creator.id :=
        Database.result_store_of_isEmpty _ hvalue
      rw [← hresult, haccepts]
    · exact Option.isSome_eq_false_iff.mpr (Option.isNone_iff_eq_none.mpr hfound)

/-- A receipt is exact for a store that has turned a network into another: the peers nearest to the
key are those that have accepted the record and those that have refused it. -/
structure Exact (before after : Loopback) (record : Record) (receipt : Receipt)
    (accepted refused : List (Peer × Nat)) : Prop where
  /-- The node has joined. -/
  bootstrapped : before.bootstrapped = true
  /-- The receipt is for the record's key. -/
  key : receipt.key = record.key
  /-- The locations are the peers that have accepted the record. -/
  locations : receipt.locations = accepted.map fun entry => entry.1.contact
  /-- The other contacts are the peers that have refused it. -/
  failed : receipt.failed = refused.map fun entry => entry.1.contact
  /-- These are the nearest peers, each of them once, and the closest come first. -/
  nearest : ∃ nearest, Nearest before.peers record.key before.replication nearest ∧
    (accepted ++ refused).Perm nearest ∧ accepted.Sublist nearest ∧ refused.Sublist nearest
  /-- No contact is named twice, unless two peers have the same one. -/
  distinct : (before.peers.map Peer.contact).Nodup → (receipt.locations ++ receipt.failed).Nodup
  /-- Somebody has accepted the record. -/
  nonempty : accepted ≠ []
  /-- Those that have accepted the record serve it. -/
  served : ∀ entry ∈ accepted, ∃ peer, after.peers[entry.2]? = some peer ∧
    Serves record entry.1 peer
  /-- All other peers are as before. -/
  unchanged : ∀ entry ∈ before.peers.zipIdx, entry ∉ accepted →
    after.peers[entry.2]? = some entry.1
  /-- There are as many peers as before. -/
  length_eq : after.peers.length = before.peers.length

/-- The receipt of a store that somebody has accepted is exact. -/
theorem exact_store (h : network.Remote) (hjoined : network.bootstrapped = true)
    (hsomebody : network.accepting record now ≠ []) :
    Exact network (network.store record now).network record
      ⟨record.key, (network.accepting record now).map fun entry => entry.1.contact,
        (network.refusing record now).map fun entry => entry.1.contact⟩
      (network.accepting record now) (network.refusing record now) where
  bootstrapped := hjoined
  key := rfl
  locations := rfl
  failed := rfl
  nearest := ⟨_, network.nearest_closest record.key network.replication,
    network.accepting_append_refusing_perm record now, List.filter_sublist, List.filter_sublist⟩
  distinct := by
    intro hdistinct
    have hperm := (network.accepting_append_refusing_perm record now).map fun entry =>
      entry.1.contact
    have hnearest := network.nearest_closest record.key network.replication
    rw [List.map_append] at hperm
    exact hperm.nodup_iff.mpr (hnearest.nodup_contacts hdistinct)
  nonempty := hsomebody
  served := by
    intro entry hentry
    have hknown := mem_zipIdx_of_mem_closest (List.mem_of_mem_filter hentry)
    exact ⟨_, getElem?_peers_store hjoined hknown,
      serves_peerAfter (h.of_mem_zipIdx hknown).wellFormed hentry⟩
  unchanged := by
    intro entry hentry hnot
    rw [getElem?_peers_store hjoined hentry, peerAfter_of_notMem hentry hnot]
  length_eq := by rw [network_store hjoined, List.length_map, List.length_zipIdx]

/-- Why a store fails: the node has not joined, or no peer that the record is sent to accepts it. -/
inductive Fails (network : Loopback) (record : Record) (now : Time) : Error → Prop
  /-- The node has not joined. -/
  | notBootstrapped (h : network.bootstrapped = false) : Fails network record now .notBootstrapped
  /-- Nobody accepts the record. -/
  | refused (h : network.bootstrapped = true)
      (hrefused : ∀ entry ∈ network.closest record.key network.replication,
        network.accepts record now entry = false) :
      Fails network record now (.store s!"no peer accepted {record.key.short}")

/-- Every store into a network is answered at once. A receipt tells exactly what has happened to the
peers, and an error changes nothing. No peer ever has a record of its own. -/
theorem receipts_are_exact (count : Nat) (settings : Config.Storage) (events : List Event)
    (record : Record) (now : Time) :
    let network := (Loopback.ofSettings count settings).afterAll events
    let reply := network.store record now
    network.replication = settings.replication ∧ network.Remote ∧ reply.network.Remote ∧
      ((∃ receipt accepted refused, reply.answer = some (.ok receipt) ∧
          Exact network reply.network record receipt accepted refused) ∨
        ∃ error, reply.answer = some (.error error) ∧ network.Fails record now error ∧
          reply.network = network) := by
  intro network reply
  have hremote : network.Remote := (Remote.ofSettings count settings).afterAll events
  have hreplication : network.replication = settings.replication :=
    congrArg Prod.snd ((Loopback.ofSettings count settings).layout_afterAll events)
  refine ⟨hreplication, hremote, hremote.store record now, ?_⟩
  cases hjoined : network.bootstrapped with
  | false =>
    have hreply : reply = ⟨some (.error .notBootstrapped), network, []⟩ := by
      simp [reply, Loopback.store, hjoined]
    rw [hreply]
    exact .inr ⟨_, rfl, .notBootstrapped hjoined, rfl⟩
  | true =>
    have hanswer := answer_of_bootstrapped hjoined record now
    -- the error is decided after all peers were asked, but then all of them have refused
    by_cases hsomebody : network.accepting record now = []
    · rw [hsomebody, List.isEmpty_nil, if_pos rfl] at hanswer
      have hrefused : ∀ entry ∈ network.closest record.key network.replication,
          network.accepts record now entry = false := by
        simpa [accepting, List.filter_eq_nil_iff] using hsomebody
      exact .inr ⟨_, hanswer, .refused hjoined hrefused,
        network_store_of_accepting_eq_nil hjoined hsomebody⟩
    · rw [if_neg (mt List.isEmpty_iff.mp hsomebody)] at hanswer
      exact .inl ⟨_, _, _, hanswer, exact_store hremote hjoined hsomebody⟩

end Loopback

end OverlayStore
