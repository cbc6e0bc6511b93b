import OverlayStore.Proofs.Network.Receipts

/-!
# The closest peers and the closest contacts

A loopback network puts contacts in order in two places. A store goes to the peers closest to the
key, and the view of the overlay that expiry looks at selects the closest contacts, among which the
node itself may be. Both orders are by distance, and contacts at the same distance keep the order of
the peers. So the closest peers are the closest contacts without the node, whether the node lies
among them, at the edge or beyond (`Loopback.closest_eq_select`).
-/

namespace OverlayStore.Loopback

variable {network : Loopback}

/-- The closest peers are known by the order of their contacts. -/
theorem contacts_closest (network : Loopback) (key : Key) (count : Nat) :
    (network.closest key count).map (fun entry => entry.1.contact) =
      (Contact.byDistance key (network.peers.map Peer.contact)).take count := by
  have hranked : (network.ranked key).map (fun entry => entry.1.contact) =
      Contact.byDistance key (network.peers.map Peer.contact) := by
    rw [ranked, List.map_mergeSort (s := Contact.notFarther key) fun _ _ _ _ => rfl]
    -- without the indices the peers are those of the network
    conv_rhs => rw [← List.zipIdx_map_fst 0 network.peers, List.map_map]
    rfl
  rw [closest, List.map_take, hranked]

/-- The node is one of the contacts to select from once, unless a peer has its contact. -/
theorem count_byDistance_le_one (hnode : network.contact ∉ network.peers.map Peer.contact)
    (key : Key) :
    (Contact.byDistance key (network.peers.map Peer.contact ++ [network.contact])).count
      network.contact ≤ 1 := by
  rw [(Contact.byDistance_perm key _).count_eq, List.count_append, List.count_eq_zero.mpr hnode]
  simp

/-- Without the node, the contacts selected are the closest ones of the peers. -/
theorem filter_select (hnode : network.contact ∉ network.peers.map Peer.contact) (key : Key)
    (count : Nat) :
    ((network.select key (count + 1)).filter (· ≠ network.contact)).take count =
      (Contact.byDistance key (network.peers.map Peer.contact)).take count := by
  have hpeers : (network.peers.map Peer.contact).filter (· ≠ network.contact) =
      network.peers.map Peer.contact :=
    List.filter_eq_self.mpr fun contact hcontact =>
      decide_eq_true fun hsame => hnode (hsame ▸ hcontact)
  rw [select, take_filter_take (count_byDistance_le_one hnode key), Contact.filter_byDistance,
    List.filter_append, hpeers]
  simp

theorem contact_afterAll (network : Loopback) (events : List Event) :
    (network.afterAll events).contact = network.contact := by
  induction events generalizing network with
  | nil => rfl
  | cons event events ih =>
    refine (ih (network.react event)).trans ?_
    cases event with
    | store record now =>
      cases hjoined : network.bootstrapped with
      | false => simp [react, Loopback.store, hjoined]
      | true => exact contact_store hjoined record now
    | setBootstrapped bootstrapped => rfl

/-- No peer has the contact of the node, for their addresses lie in another block. -/
theorem contact_notMem_afterAll (count : Nat) (settings : Config.Storage) (events : List Event) :
    let network := (Loopback.ofSettings count settings).afterAll events
    network.contact ∉ network.peers.map Peer.contact := by
  intro network hmem
  have hcontacts : network.peers.map Peer.contact =
      (Loopback.ofSettings count settings).peers.map Peer.contact :=
    congrArg Prod.fst ((Loopback.ofSettings count settings).layout_afterAll events)
  rw [hcontacts, contact_afterAll] at hmem
  obtain ⟨peer, hpeer, hsame⟩ := List.mem_map.mp hmem
  obtain ⟨index, -, rfl⟩ := List.mem_map.mp hpeer
  have hip := congrArg (fun contact : Contact => contact.address.ip) hsame
  obtain ⟨-, hsecond, -⟩ := Net.Ip.ofOctets_eq_iff.mp hip
  exact absurd hsecond (by decide)

/-- In every network, whatever has been stored, the peers closest to a key are, in the same order,
the contacts that its view of the overlay selects when it is asked for one more, without the node
itself. Both are sorted by distance, and no peer that is left out is closer than one that was
chosen. So a record is offered to those only that are selected as the closest to its key. -/
theorem closest_eq_select (count : Nat) (settings : Config.Storage) (events : List Event) :
    let network := (Loopback.ofSettings count settings).afterAll events
    let selected (key : Key) (wanted : Nat) := (Network.routing network).select key (wanted + 1)
    let others (key : Key) (wanted : Nat) :=
      ((selected key wanted).filter (· ≠ network.contact)).take wanted
    (∀ key wanted,
      (network.closest key wanted).map (fun entry => entry.1.contact) = others key wanted ∧
      ((selected key wanted).Pairwise fun a b => a.distanceTo key ≤ b.distanceTo key) ∧
      Nearest network.peers key wanted (network.closest key wanted)) ∧
    ∀ record now, (network.offers record now).map Offer.contact =
      others record.key network.replication := by
  intro network selected others
  have hnode : network.contact ∉ network.peers.map Peer.contact :=
    contact_notMem_afterAll count settings events
  have hothers : ∀ key wanted,
      (network.closest key wanted).map (fun entry => entry.1.contact) = others key wanted := by
    intro key wanted
    exact (network.contacts_closest key wanted).trans (filter_select hnode key wanted).symm
  refine ⟨fun key wanted => ⟨hothers key wanted, ?_, network.nearest_closest key wanted⟩, ?_⟩
  · exact (Contact.pairwise_byDistance key _).sublist (List.take_sublist _ _)
  · intro record now
    rw [offers, List.map_map]
    exact hothers record.key network.replication

end OverlayStore.Loopback
