import Mathlib.Data.List.Nodup
import OverlayStore.Network.Loopback
import OverlayStore.Proofs.Database.Hosting

/-!
# Stores into a loopback network

A loopback network sends a record to the peers closest to its key. Which peers these are depends on
the contacts of the peers only, so a key is sent to the same peers at all times, and no other peer
ever holds it (`Loopback.Sound`). A peer accepts a record exactly if it holds the key afterwards. So
the number of locations on a receipt is the number of peers that hold the key, and where a store
fails no peer holds it.
-/

namespace OverlayStore.Loopback

variable {network : Loopback} {record : Record} {now : Time} {key : Key}

/-! ## The peers that a key is sent to -/

/-- The indices of the peers that should hold a key. -/
def chosen (network : Loopback) (key : Key) : List Nat :=
  (network.closest key network.replication).map Prod.snd

/-- The chosen peers are determined by the contacts of all peers. -/
theorem chosen_eq (network : Loopback) (key : Key) :
    network.chosen key =
      (((network.peers.map Peer.contact).zipIdx.mergeSort fun a b =>
        Contact.notFarther key a.1 b.1).take network.replication).map Prod.snd := by
  have hsort : (network.ranked key).map (Prod.map Peer.contact id) =
      (network.peers.map Peer.contact).zipIdx.mergeSort fun a b =>
        Contact.notFarther key a.1 b.1 := by
    rw [ranked, List.zipIdx_map]
    exact List.map_mergeSort fun _ _ _ _ => rfl
  -- the sort looks at nothing but the contacts
  rw [← hsort, ← List.map_take, List.map_map]
  rfl

/-- Who is chosen depends on the contacts of the peers and on the replication only. -/
theorem chosen_congr {other : Loopback}
    (hcontacts : other.peers.map Peer.contact = network.peers.map Peer.contact)
    (hreplication : other.replication = network.replication) :
    other.chosen key = network.chosen key := by
  rw [chosen_eq, chosen_eq, hcontacts, hreplication]

/-- The closest peers are peers, each with its index. -/
theorem mem_zipIdx_of_mem_closest {count : Nat} {entry : Peer × Nat}
    (h : entry ∈ network.closest key count) : entry ∈ network.peers.zipIdx :=
  (List.mergeSort_perm _ _).mem_iff.mp (List.mem_of_mem_take h)

/-- There is only one peer with an index. -/
theorem eq_of_index_eq {peers : List Peer} {entry other : Peer × Nat}
    (hentry : entry ∈ peers.zipIdx) (hother : other ∈ peers.zipIdx) (hindex : other.2 = entry.2) :
    other = entry := by
  have hfound := List.mem_zipIdx_iff_getElem?.mp hother
  rw [hindex, List.mem_zipIdx_iff_getElem?.mp hentry] at hfound
  exact Prod.ext (Option.some.inj hfound).symm hindex

/-- A peer is among the closest if its index is chosen. -/
theorem mem_closest_iff {entry : Peer × Nat} (hentry : entry ∈ network.peers.zipIdx) :
    entry ∈ network.closest key network.replication ↔ entry.2 ∈ network.chosen key := by
  constructor
  · exact List.mem_map_of_mem
  · intro hindex
    obtain ⟨other, hother, hsame⟩ := List.mem_map.mp hindex
    rwa [← eq_of_index_eq hentry (mem_zipIdx_of_mem_closest hother) hsame]

theorem nodup_zipIdx (peers : List Peer) : peers.zipIdx.Nodup := by
  refine List.Nodup.of_map Prod.snd ?_
  rw [List.zipIdx_map_snd]
  exact List.nodup_range'

/-- Among the closest peers there is none twice. -/
theorem nodup_closest (network : Loopback) (key : Key) (count : Nat) :
    (network.closest key count).Nodup :=
  ((List.mergeSort_perm _ _).nodup_iff.mpr (nodup_zipIdx network.peers)).sublist
    (List.take_sublist _ _)

/-- Counting among the peers that a key is sent to is counting among those with a chosen index. -/
theorem countP_closest (network : Loopback) (key : Key) (counted : Peer × Nat → Bool) :
    (network.closest key network.replication).countP counted =
      network.peers.zipIdx.countP fun entry => entry.2 ∈ network.chosen key && counted entry := by
  have hnodup := network.nodup_closest key network.replication
  have hperm : (network.closest key network.replication).Perm
      (network.peers.zipIdx.filter fun entry => entry.2 ∈ network.chosen key) := by
    refine (List.perm_ext_iff_of_nodup hnodup ((nodup_zipIdx _).filter _)).mpr fun entry => ?_
    rw [List.mem_filter, decide_eq_true_eq]
    constructor
    · intro hmem
      have hentry := mem_zipIdx_of_mem_closest hmem
      exact ⟨hentry, (mem_closest_iff hentry).mp hmem⟩
    · rintro ⟨hentry, hindex⟩
      exact (mem_closest_iff hentry).mpr hindex
  rw [hperm.countP_eq, List.countP_filter]
  simp only [Bool.and_comm]

/-! ## What a store does to the peers -/

/-- A peer, given with its index, after a store. -/
def peerAfter (network : Loopback) (record : Record) (now : Time) (entry : Peer × Nat) : Peer :=
  if entry.2 ∈ network.chosen record.key then
    { entry.1 with database := (entry.1.database.store (network.heldAs record now)).database }
  else entry.1

/-- A store does not change the contact of a peer. -/
@[simp]
theorem contact_peerAfter (entry : Peer × Nat) :
    (network.peerAfter record now entry).contact = entry.1.contact := by
  unfold peerAfter
  split <;> rfl

/-- There is an offer for the index of each peer that is chosen. -/
theorem find?_offers (network : Loopback) (record : Record) (now : Time) {entry : Peer × Nat}
    (hentry : entry ∈ network.peers.zipIdx) :
    (network.offers record now).find? (fun offer => offer.index = entry.2) =
      if entry.2 ∈ network.chosen record.key then
        some ⟨entry.2, entry.1.contact, entry.1.database.store (network.heldAs record now)⟩
      else none := by
  -- no two of the peers that are asked have the same index
  have hfind : ((network.closest record.key network.replication).find? fun other =>
      other.2 = entry.2) = if entry.2 ∈ network.chosen record.key then some entry else none := by
    split
    · rename_i hindex
      cases hfound : (network.closest record.key network.replication).find? fun other =>
          other.2 = entry.2 with
      | none =>
        have habsent := List.find?_eq_none.mp hfound entry ((mem_closest_iff hentry).mpr hindex)
        simp at habsent
      | some other =>
        have hother := mem_zipIdx_of_mem_closest (List.mem_of_find?_eq_some hfound)
        have hsame : other.2 = entry.2 := by simpa using List.find?_some hfound
        rw [eq_of_index_eq hentry hother hsame]
    · rename_i hindex
      refine List.find?_eq_none.mpr fun other hother hsame => hindex ?_
      rw [← of_decide_eq_true hsame]
      exact List.mem_map_of_mem hother
  rw [offers, List.find?_map, show ((fun offer : Offer => decide (offer.index = entry.2)) ∘
    fun other : Peer × Nat => (⟨other.2, other.1.contact,
      other.1.database.store (network.heldAs record now)⟩ : Offer)) =
        fun other => decide (other.2 = entry.2) from rfl, hfind]
  split <;> rfl

/-- A node that has joined is answered at once: by a receipt if any peer has accepted the record. -/
theorem store_of_bootstrapped (h : network.bootstrapped = true) (record : Record) (now : Time) :
    (network.store record now).network = network.afterOffers (network.offers record now) ∧
      (network.store record now).answer = some
        (if ((network.offers record now).filter fun offer => offer.outcome.result).isEmpty then
          .error (.store s!"no peer accepted {record.key.short}")
        else
          .ok ⟨record.key,
            ((network.offers record now).filter fun offer => offer.outcome.result).map
              Offer.contact,
            ((network.offers record now).filter fun offer => !offer.outcome.result).map
              Offer.contact⟩) := by
  have hjoined : ¬(!network.bootstrapped) = true := by simp [h]
  rw [store, if_neg hjoined]
  dsimp only
  rw [List.partition_eq_filter_filter]
  exact ⟨rfl, rfl⟩

/-- A store changes the peers one by one. -/
theorem network_store (h : network.bootstrapped = true) (record : Record) (now : Time) :
    (network.store record now).network =
      { network with peers := network.peers.zipIdx.map (network.peerAfter record now) } := by
  have hnetwork := (store_of_bootstrapped h record now).1
  rw [hnetwork, afterOffers, Loopback.mk.injEq]
  refine ⟨rfl, List.map_congr_left fun entry hentry => ?_, rfl, rfl⟩
  dsimp only
  rw [find?_offers network record now hentry, peerAfter]
  by_cases hindex : entry.2 ∈ network.chosen record.key <;> simp only [hindex, if_true, if_false]

theorem contact_store (h : network.bootstrapped = true) (record : Record) (now : Time) :
    (network.store record now).network.contact = network.contact := by
  rw [network_store h]

theorem contacts_store (h : network.bootstrapped = true) (record : Record) (now : Time) :
    (network.store record now).network.peers.map Peer.contact =
      network.peers.map Peer.contact := by
  have hcontact : Peer.contact ∘ network.peerAfter record now = Peer.contact ∘ Prod.fst :=
    funext fun entry => contact_peerAfter entry
  rw [network_store h, List.map_map, hcontact, ← List.map_map, List.zipIdx_map_fst]

theorem chosen_store (h : network.bootstrapped = true) (record : Record) (now : Time) (key : Key) :
    (network.store record now).network.chosen key = network.chosen key :=
  chosen_congr (contacts_store h record now) (by rw [network_store h])

/-- A peer after a store was there before, with the same index. -/
theorem exists_of_mem_zipIdx_store (h : network.bootstrapped = true) {entry : Peer × Nat}
    (hentry : entry ∈ (network.store record now).network.peers.zipIdx) :
    ∃ peer, (peer, entry.2) ∈ network.peers.zipIdx ∧
      network.peerAfter record now (peer, entry.2) = entry.1 := by
  rw [network_store h, List.mem_zipIdx_iff_getElem?, List.getElem?_map, List.getElem?_zipIdx]
    at hentry
  obtain ⟨former, hformer, hafter⟩ := Option.map_eq_some_iff.mp hentry
  obtain ⟨peer, hpeer, rfl⟩ := Option.map_eq_some_iff.mp hformer
  rw [Nat.zero_add] at hafter
  exact ⟨peer, List.mem_zipIdx_iff_getElem?.mpr hpeer, hafter⟩

/-- The number of peers that accept a record. -/
def acceptances (network : Loopback) (record : Record) (now : Time) : Nat :=
  (network.closest record.key network.replication).countP fun entry =>
    (entry.1.database.store (network.heldAs record now)).result

/-- The receipt counts the peers that have accepted the record, and without any there is none. -/
theorem answer_store (h : network.bootstrapped = true) (record : Record) (now : Time) :
    ∃ answer, (network.store record now).answer = some answer ∧
      match answer with
      | .ok receipt => receipt.count = network.acceptances record now ∧
          0 < network.acceptances record now
      | .error _ => network.acceptances record now = 0 := by
  have hanswer := (store_of_bootstrapped h record now).2
  have hcount : network.acceptances record now =
      ((network.offers record now).filter fun offer => offer.outcome.result).length := by
    rw [← List.countP_eq_length_filter, offers, List.countP_map]
    rfl
  refine ⟨_, hanswer, ?_⟩
  rw [hcount]
  cases (network.offers record now).filter fun offer => offer.outcome.result with
  | nil => rfl
  | cons offer rest => exact ⟨List.length_map _, Nat.succ_pos _⟩

/-! ## Sound networks -/

/-- The number of peers that hold a record of the node under a key. -/
def holders (network : Loopback) (key : Key) : Nat :=
  network.peers.countP fun peer => peer.database.contains key network.contact.id

/-- A network that the node has joined, in which all peers serve the node and only the peers that a
key is sent to hold it. -/
structure Sound (network : Loopback) : Prop where
  /-- The node has joined. -/
  bootstrapped : network.bootstrapped = true
  /-- The peers hold records of the node only. -/
  hosts : ∀ peer ∈ network.peers, peer.database.Hosts network.contact
  /-- A key is held by those only that it is sent to. -/
  placed : ∀ entry ∈ network.peers.zipIdx, ∀ key,
    entry.1.database.contains key network.contact.id = true → entry.2 ∈ network.chosen key

/-- The holders of a key can be counted with their indices. -/
theorem holders_eq (network : Loopback) (key : Key) :
    network.holders key = network.peers.zipIdx.countP fun entry =>
      entry.1.database.contains key network.contact.id := by
  conv_lhs => rw [holders, ← List.zipIdx_map_fst 0 network.peers, List.countP_map]
  rfl

/-- A peer holds a record of the node as if the node had delivered it. -/
theorem heldAs_eq (hcreator : record.creator = network.contact) :
    network.heldAs record now =
      Lease.record ⟨network.contact, network.contact, record.key⟩ record.value now := by
  rw [heldAs, hcreator]
  rfl

namespace Sound

/-- A new network is sound. -/
theorem ofSettings (count : Nat) (settings : Config.Storage) :
    (Loopback.ofSettings count settings).Sound where
  bootstrapped := rfl
  hosts := by
    intro peer hpeer
    obtain ⟨index, -, rfl⟩ := List.mem_map.mp hpeer
    exact Database.Hosts.fresh _ _ settings.maxPerKey _
  placed := by
    intro entry hentry key hcontains
    have hpeer := List.fst_mem_of_mem_zipIdx hentry
    obtain ⟨index, -, hindex⟩ := List.mem_map.mp hpeer
    rw [← hindex] at hcontains
    cases hcontains

theorem hosts_of_mem_zipIdx (h : network.Sound) {entry : Peer × Nat}
    (hentry : entry ∈ network.peers.zipIdx) : entry.1.database.Hosts network.contact :=
  h.hosts entry.1 (List.fst_mem_of_mem_zipIdx hentry)

section Store

variable (h : network.Sound) (hcreator : record.creator = network.contact)
  (hvalue : record.value.isEmpty = false)

include h hcreator

/-- A store does not concern what a peer holds under other keys. -/
theorem contains_peerAfter_of_ne {entry : Peer × Nat} (hentry : entry ∈ network.peers.zipIdx)
    (hne : key ≠ record.key) :
    (network.peerAfter record now entry).database.contains key network.contact.id =
      entry.1.database.contains key network.contact.id := by
  unfold peerAfter
  split
  · rw [heldAs_eq hcreator]
    exact (h.hosts_of_mem_zipIdx hentry).contains_store_of_ne hne record.value now _
  · rfl

/-- Other keys are held by as many peers as before. -/
theorem holders_store_of_ne (now : Time) (hne : key ≠ record.key) :
    (network.store record now).network.holders key = network.holders key := by
  rw [network_store h.bootstrapped, holders_eq network, holders, List.countP_map]
  refine List.countP_congr fun entry hentry => ?_
  rw [Function.comp_apply, h.contains_peerAfter_of_ne hcreator hentry hne]

include hvalue

/-- After a store, a peer holds the key if it was chosen and has accepted the record. -/
theorem contains_peerAfter {entry : Peer × Nat} (hentry : entry ∈ network.peers.zipIdx) :
    (network.peerAfter record now entry).database.contains record.key network.contact.id =
      (entry.2 ∈ network.chosen record.key &&
        (entry.1.database.store (network.heldAs record now)).result) := by
  have hhosts := h.hosts_of_mem_zipIdx hentry
  unfold peerAfter
  split
  · rename_i hindex
    rw [heldAs_eq hcreator]
    simpa [hindex] using (hhosts.result_store_eq record.key hvalue now).symm
  · rename_i hindex
    -- the record is not sent to this peer, nor was any other under its key
    have hnot : entry.1.database.contains record.key network.contact.id = false :=
      eq_false_of_ne_true fun hcontains => hindex (h.placed entry hentry _ hcontains)
    simpa [hindex] using hnot

/-- The peers that hold the key of a record after its store are those that have accepted it. -/
theorem holders_store (now : Time) :
    (network.store record now).network.holders record.key = network.acceptances record now := by
  rw [network_store h.bootstrapped, acceptances, countP_closest, holders, List.countP_map]
  refine List.countP_congr fun entry hentry => ?_
  rw [Function.comp_apply, h.contains_peerAfter hcreator hvalue hentry]

/-- Peers that have accepted a key go on accepting it. -/
theorem holders_le_acceptances (now : Time) :
    network.holders record.key ≤ network.acceptances record now := by
  rw [holders_eq, acceptances, countP_closest]
  refine List.countP_mono_left fun entry hentry hcontains => ?_
  have hresult := (h.hosts_of_mem_zipIdx hentry).result_store_of_contains hcontains hvalue now
  rw [heldAs_eq hcreator, hresult]
  simpa using h.placed entry hentry _ hcontains

/-- A store is answered at once. The receipt counts the peers that hold the key afterwards, and if
there is none, no peer has held the key before either. -/
theorem exists_answer_store (now : Time) :
    ∃ answer, (network.store record now).answer = some answer ∧
      match answer with
      | .ok receipt =>
        receipt.count = (network.store record now).network.holders record.key ∧ 0 < receipt.count
      | .error _ => (network.store record now).network.holders record.key = 0 ∧
          network.holders record.key = 0 := by
  obtain ⟨answer, hanswer, hcount⟩ := answer_store h.bootstrapped record now
  have hle := h.holders_le_acceptances hcreator hvalue now
  refine ⟨answer, hanswer, ?_⟩
  rw [h.holders_store hcreator hvalue]
  cases answer with
  | ok receipt =>
    obtain ⟨hreceipt, hpos⟩ := hcount
    exact ⟨hreceipt, hreceipt ▸ hpos⟩
  | error error =>
    dsimp only at hcount
    omega

/-- A store leaves a network sound. -/
theorem store (now : Time) : (network.store record now).network.Sound where
  bootstrapped := by
    rw [network_store h.bootstrapped]
    exact h.bootstrapped
  hosts := by
    rw [network_store h.bootstrapped]
    intro peer hpeer
    obtain ⟨entry, hentry, rfl⟩ := List.mem_map.mp hpeer
    have hhosts := h.hosts_of_mem_zipIdx hentry
    unfold peerAfter
    split
    · rw [heldAs_eq hcreator]
      exact hhosts.store record.key record.value now
    · exact hhosts
  placed := by
    intro entry hentry key hcontains
    obtain ⟨peer, hpeer, hafter⟩ := exists_of_mem_zipIdx_store h.bootstrapped hentry
    rw [contact_store h.bootstrapped, ← hafter] at hcontains
    rw [chosen_store h.bootstrapped]
    by_cases hkey : key = record.key
    · subst hkey
      rw [h.contains_peerAfter hcreator hvalue hpeer, Bool.and_eq_true] at hcontains
      exact of_decide_eq_true hcontains.1
    · rw [h.contains_peerAfter_of_ne hcreator hpeer hkey] at hcontains
      exact h.placed _ hpeer key hcontains

end Store

end Sound

end OverlayStore.Loopback
