import OverlayStore.Proofs.Key
import OverlayStore.Proofs.Selection
import OverlayStore.Routing

/-!
# Contacts by distance

Contacts are ordered by the number that their distance from a key is. This order is total and
transitive, so sorting by it does sort, and the first of the sorted contacts are the closest ones.
Contacts at the same distance have the same identifier, and a contact in a higher bucket lies
farther away.
-/

namespace OverlayStore

namespace Contact

/-- How far a contact lies from a key, as a number. -/
def distanceTo (contact : Contact) (key : Key) : Nat :=
  (contact.id.distance key).toNat

variable {key : Key} {a b c : Contact}

/-- A contact is not farther than another one if its distance is no greater. -/
theorem notFarther_iff : notFarther key a b = true ↔ a.distanceTo key ≤ b.distanceTo key :=
  Key.notAfter_iff

theorem notFarther_trans (hab : notFarther key a b = true) (hbc : notFarther key b c = true) :
    notFarther key a c = true := by
  rw [notFarther_iff] at hab hbc ⊢
  exact Nat.le_trans hab hbc

theorem notFarther_total (key : Key) (a b : Contact) :
    (notFarther key a b || notFarther key b a) = true := by
  rw [Bool.or_eq_true, notFarther_iff, notFarther_iff]
  exact Nat.le_total _ _

/-- Only the distance from a key tells identifiers apart. -/
theorem distanceTo_inj : a.distanceTo key = b.distanceTo key ↔ a.id = b.id :=
  Key.toNat_inj.trans (Key.distance_left_inj key)

/-- Farther contacts are in higher buckets or in the same. -/
theorem bucketIndex_mono (h : a.distanceTo key ≤ b.distanceTo key) :
    a.id.bucketIndex key ≤ b.id.bucketIndex key :=
  Key.bucketIndex_mono h

/-- Whatever has contacts is sorted by their distances when it is sorted by its contacts. -/
theorem pairwise_mergeSort {α : Type} (key : Key) (contact : α → Contact) (list : List α) :
    (list.mergeSort fun x y => notFarther key (contact x) (contact y)).Pairwise fun x y =>
      (contact x).distanceTo key ≤ (contact y).distanceTo key := by
  let before (x y : α) : Bool := notFarther key (contact x) (contact y)
  have htrans : ∀ x y z, before x y = true → before y z = true → before x z = true :=
    fun _ _ _ => notFarther_trans
  have htotal : ∀ x y, (before x y || before y x) = true :=
    fun x y => notFarther_total key (contact x) (contact y)
  exact (List.pairwise_mergeSort htrans htotal list).imp notFarther_iff.mp

/-- Ordering by distance keeps all contacts. -/
theorem byDistance_perm (key : Key) (contacts : List Contact) :
    (byDistance key contacts).Perm contacts :=
  List.mergeSort_perm _ _

/-- Ordering by distance puts closer contacts first. -/
theorem pairwise_byDistance (key : Key) (contacts : List Contact) :
    (byDistance key contacts).Pairwise fun a b => a.distanceTo key ≤ b.distanceTo key :=
  pairwise_mergeSort key (fun contact => contact) contacts

/-- Contacts may be left out before the others are put in order or afterwards. -/
theorem filter_byDistance (key : Key) (p : Contact → Bool) (contacts : List Contact) :
    (byDistance key contacts).filter p = byDistance key (contacts.filter p) := by
  have htrans : ∀ a b c, notFarther key a b = true → notFarther key b c = true →
      notFarther key a c = true := fun _ _ _ => notFarther_trans
  exact filter_mergeSort htrans (notFarther_total key) p contacts

end Contact

end OverlayStore
