import Mathlib.Order.Defs.Unbundled
import OverlayStore.Proofs.Key

/-!
# The metric of keys

The distance of keys is the exclusive or of their numbers, so what holds of numbers holds of keys:
the distance is a metric, the bucket index of different keys is the power of two that their distance
reaches, and to be closer to a target is a strict total order that respects the buckets
(`Key.arithmetic_is_exact`).
-/

namespace OverlayStore.Key

variable {a b c : Key}

/-! ## Distances -/

/-- A sum is the exclusive or and the carries. -/
theorem xor_le_add (x y : Nat) : x ^^^ y ≤ x + y := by
  induction x using Nat.strongRecOn generalizing y with
  | ind x ih =>
    by_cases hzero : x = 0
    · rw [hzero, Nat.zero_xor]
      exact Nat.le_add_left _ _
    · -- all bits but the lowest are those of the halves
      have hhalf := ih (x / 2) (by omega) (y / 2)
      rw [← Nat.xor_div_two] at hhalf
      have hlow := Nat.xor_mod_two_eq (m := x) (n := y)
      omega

/-- Only a key itself is at distance zero. -/
theorem toNat_distance_eq_zero_iff : (a.distance b).toNat = 0 ↔ a = b := by
  rw [toNat_distance, Nat.xor_eq_zero_iff, toNat_inj]

/-- Keys are equal if no bit is different. -/
theorem distance_eq_zero_iff : a.distance b = zero ↔ a = b := by
  have hzero : zero.toNat = 0 := rfl
  rw [← toNat_inj, hzero, toNat_distance_eq_zero_iff]

/-- The way by a third key is no shorter. -/
theorem toNat_distance_le (a b via : Key) :
    (a.distance b).toNat ≤ (a.distance via).toNat + (via.distance b).toNat := by
  -- the third key cancels out
  have hvia : a.toNat ^^^ b.toNat = (a.toNat ^^^ via.toNat) ^^^ (via.toNat ^^^ b.toNat) := by
    rw [Nat.xor_assoc, Nat.xor_xor_cancel_left]
  rw [toNat_distance, toNat_distance, toNat_distance, hvia]
  exact xor_le_add _ _

/-! ## Buckets -/

theorem bucketIndex_self (key : Key) : key.bucketIndex key = 0 := by
  rw [bucketIndex_eq_log2, toNat_distance_eq_zero_iff.mpr rfl, Nat.log2_zero]

/-- The distance of different keys has its highest bit where the bucket index says. -/
theorem two_pow_bucketIndex_le (h : a ≠ b) :
    2 ^ a.bucketIndex b ≤ (a.distance b).toNat ∧
      (a.distance b).toNat < 2 ^ (a.bucketIndex b + 1) := by
  rw [bucketIndex_eq_log2]
  exact ⟨Nat.log2_self_le (mt toNat_distance_eq_zero_iff.mp h), Nat.lt_log2_self⟩

/-! ## Being closer -/

variable {target : Key}

/-- A key is closer if its distance is a smaller number. -/
theorem isCloser_iff :
    a.isCloser b target = true ↔ (a.distance target).toNat < (b.distance target).toNat :=
  before_iff

theorem not_isCloser_self (a target : Key) : ¬a.isCloser a target = true :=
  fun h => absurd (isCloser_iff.mp h) (Nat.lt_irrefl _)

theorem isCloser_trans (hab : a.isCloser b target = true) (hbc : b.isCloser c target = true) :
    a.isCloser c target = true :=
  isCloser_iff.mpr (Nat.lt_trans (isCloser_iff.mp hab) (isCloser_iff.mp hbc))

/-- Of two different keys one is closer, and the other is not. -/
theorem isCloser_eq_not (h : a ≠ b) (target : Key) :
    a.isCloser b target = !b.isCloser a target := by
  -- different keys lie at different distances
  have hne : (a.distance target).toNat ≠ (b.distance target).toNat :=
    fun hsame => h ((distance_left_inj target).mp (toNat_inj.mp hsame))
  rw [Bool.eq_iff_iff, Bool.not_eq_true', ← Bool.not_eq_true, isCloser_iff, isCloser_iff]
  omega

/-- To be closer to a target is a strict total order. -/
theorem isStrictTotalOrder_isCloser (target : Key) :
    IsStrictTotalOrder Key fun a b => a.isCloser b target = true where
  irrefl a := not_isCloser_self a target
  trans _ _ _ := isCloser_trans
  trichotomous a b hab hba := by
    by_contra hne
    rw [isCloser_eq_not hne, Bool.not_eq_true'] at hab
    exact hab ((Bool.not_eq_true _).mp hba)

/-- Keys are numbers of 160 bits, each key another one. Their order is that of the numbers. Their
distance is the exclusive or, which is zero between equal keys only and satisfies the triangle
inequality. The bucket index is the position of the highest bit of the distance, and zero for equal
keys. A key that is closer to a target than another one is in a bucket that is no higher, and to be
closer to a target is a strict total order: of two different keys exactly one is closer. -/
theorem arithmetic_is_exact (a b target : Key) :
    a.toNat < 2 ^ bits ∧ (a.toNat = b.toNat ↔ a = b) ∧
    compare a b = Ord.compare a.toNat b.toNat ∧
    (a.distance b).toNat = a.toNat ^^^ b.toNat ∧
    (a.distance b = zero ↔ a = b) ∧
    (a.distance b).toNat ≤ (a.distance target).toNat + (target.distance b).toNat ∧
    (a ≠ b → 2 ^ a.bucketIndex b ≤ (a.distance b).toNat ∧
      (a.distance b).toNat < 2 ^ (a.bucketIndex b + 1)) ∧
    a.bucketIndex a = 0 ∧
    (a.isCloser b target = true → a.bucketIndex target ≤ b.bucketIndex target) ∧
    IsStrictTotalOrder Key (fun a b => a.isCloser b target = true) ∧
    (a ≠ b → a.isCloser b target = !b.isCloser a target) := by
  refine ⟨a.toNat_lt, toNat_inj, compare_eq a b, toNat_distance a b, distance_eq_zero_iff,
    toNat_distance_le a b target, two_pow_bucketIndex_le, bucketIndex_self a, fun hcloser => ?_,
    isStrictTotalOrder_isCloser target, fun hne => isCloser_eq_not hne target⟩
  exact bucketIndex_mono (Nat.le_of_lt (isCloser_iff.mp hcloser))

end OverlayStore.Key
