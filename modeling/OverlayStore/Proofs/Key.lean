import OverlayStore.Key
import OverlayStore.Proofs.Bytes

/-!
# Keys as numbers

A key read most significant byte first is a number below `2 ^ 160`. Keys are compared byte by byte
up to the first difference, and `Key.compare_eq` shows that this is the order of the numbers. Their
distance, taken byte by byte, is the exclusive or of the numbers (`Key.toNat_distance`). The bucket
index of two keys, found by counting zero bits byte by byte, is the position of the highest bit of
the number that their distance is (`Key.bucketIndex_eq_log2`).
-/

namespace OverlayStore.Key

variable {a b : Key}

/-! ## The order of keys -/

/-- Comparing byte strings of the same length compares the numbers. -/
theorem compareBytes_eq {xs ys : Bytes} (hlength : xs.length = ys.length) :
    compareBytes xs ys = Ord.compare (Bytes.number xs) (Bytes.number ys) := by
  fun_induction compareBytes xs ys with
  | case1 => rfl
  | case2 => cases hlength
  | case3 => cases hlength
  | case4 x xs y ys hlt =>
    -- the first bytes differ, and the rest does not matter
    exact (Nat.compare_eq_lt.mpr (Bytes.number_cons_lt_of_lt (Nat.succ.inj hlength) hlt)).symm
  | case5 x xs y ys hge hgt =>
    exact (Nat.compare_eq_gt.mpr (Bytes.number_cons_lt_of_lt (Nat.succ.inj hlength).symm hgt)).symm
  | case6 x xs y ys hge hle ih =>
    have hsame : x = y := UInt8.le_antisymm (UInt8.not_lt.mp hle) (UInt8.not_lt.mp hge)
    rw [ih (Nat.succ.inj hlength), Bytes.number_cons, Bytes.number_cons, hsame,
      Nat.succ.inj hlength, Nat.compare_eq_ite_lt, Nat.compare_eq_ite_lt]
    simp only [Nat.add_lt_add_iff_left]

/-- A key is a number of 160 bits. -/
theorem toNat_lt (key : Key) : key.toNat < 2 ^ bits := by
  have hnumber := Bytes.number_lt key.bytes
  rw [key.length_eq] at hnumber
  exact hnumber

/-- The order of keys is the order of the numbers. -/
theorem compare_eq (a b : Key) : compare a b = Ord.compare a.toNat b.toNat :=
  compareBytes_eq (a.length_eq.trans b.length_eq.symm)

/-- A key comes before another one if its number is smaller. -/
theorem before_iff : a.before b = true ↔ a.toNat < b.toNat := by
  rw [before, beq_iff_eq, compare_eq, Nat.compare_eq_lt]

/-- A key comes no later than another one if its number is no greater. -/
theorem notAfter_iff : a.notAfter b = true ↔ a.toNat ≤ b.toNat := by
  rw [notAfter, Bool.not_eq_true', ← Bool.not_eq_true, before_iff, Nat.not_lt]

theorem bytes_inj : a.bytes = b.bytes ↔ a = b := by
  cases a
  cases b
  rw [mk.injEq]

/-- Keys are told apart by their numbers. -/
theorem toNat_inj : a.toNat = b.toNat ↔ a = b := by
  rw [toNat, toNat, Bytes.number_inj (a.length_eq.trans b.length_eq.symm), bytes_inj]

/-! ## Distances -/

/-- The distance of two keys is the exclusive or of their numbers. -/
theorem toNat_distance (a b : Key) : (a.distance b).toNat = a.toNat ^^^ b.toNat :=
  Bytes.number_zipWith_xor (a.length_eq.trans b.length_eq.symm)

/-- Keys at the same distance from a third one are the same. -/
theorem distance_left_inj (target : Key) : a.distance target = b.distance target ↔ a = b := by
  rw [← toNat_inj, toNat_distance, toNat_distance, Nat.xor_left_inj, toNat_inj]

/-! ## The highest bit -/

/-- The leading zeros of a byte, its first one bit and the bits below that are eight. -/
theorem byteLeadingZeros_add_log2 {byte : UInt8} (hbyte : byte ≠ 0) :
    byteLeadingZeros byte + byte.toNat.log2 + 1 = 8 := by
  have hne : byte.toNat ≠ 0 := fun h => hbyte (UInt8.toNat_inj.mp h)
  have hlog := (Nat.log2_lt hne).mpr byte.toNat_lt
  rw [byteLeadingZeros, if_neg hbyte]
  omega

/-- Where no bit is one, all bits are leading zeros. -/
theorem leadingZerosOf_of_number_eq_zero {bytes : Bytes} (h : Bytes.number bytes = 0) :
    leadingZerosOf bytes = 8 * bytes.length := by
  induction bytes with
  | nil => rfl
  | cons byte bytes ih =>
    have hbyte : byte = 0 := by
      by_contra hne
      rw [Bytes.number_cons, Nat.add_eq_zero_iff, Nat.mul_eq_zero] at h
      exact h.1.elim (fun hzero => hne (UInt8.toNat_inj.mp hzero))
        (Nat.pow_pos (Nat.succ_pos 255)).ne'
    rw [hbyte, Bytes.number_zero_cons] at h
    rw [leadingZerosOf, if_pos hbyte, ih h, List.length_cons]
    ring

/-- The leading zeros, the first one bit and the bits below it are all bits. -/
theorem leadingZerosOf_add_log2 {bytes : Bytes} (h : Bytes.number bytes ≠ 0) :
    leadingZerosOf bytes + (Bytes.number bytes).log2 + 1 = 8 * bytes.length := by
  induction bytes with
  | nil => exact absurd rfl h
  | cons byte bytes ih =>
    rw [leadingZerosOf, List.length_cons]
    split
    · rename_i hbyte
      rw [hbyte, Bytes.number_zero_cons] at h ⊢
      have hrest := ih h
      omega
    · rename_i hbyte
      have hfirst := byteLeadingZeros_add_log2 hbyte
      rw [Bytes.log2_number_cons hbyte]
      omega

/-- The bucket index is the position of the highest bit of the distance. -/
theorem bucketIndex_eq_log2 (a b : Key) : a.bucketIndex b = (a.distance b).toNat.log2 := by
  have hlength : 8 * (a.distance b).bytes.length = bits := by rw [(a.distance b).length_eq, bits]
  rw [bucketIndex, leadingZeros, toNat]
  by_cases hzero : Bytes.number (a.distance b).bytes = 0
  · rw [leadingZerosOf_of_number_eq_zero hzero, hlength, hzero]
    rfl
  · have hsum := leadingZerosOf_add_log2 hzero
    rw [hlength] at hsum
    split <;> omega

/-- Keys farther away are in higher buckets or in the same. -/
theorem bucketIndex_mono {target : Key}
    (h : (a.distance target).toNat ≤ (b.distance target).toNat) :
    a.bucketIndex target ≤ b.bucketIndex target := by
  rw [bucketIndex_eq_log2, bucketIndex_eq_log2]
  by_cases hzero : (a.distance target).toNat = 0
  · rw [hzero]
    exact Nat.zero_le _
  · exact (Nat.le_log2 (by omega)).mpr (Nat.le_trans (Nat.log2_self_le hzero) h)

end OverlayStore.Key
