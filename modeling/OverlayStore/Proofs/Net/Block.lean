import Mathlib.Data.Nat.Bitwise
import OverlayStore.Net.Address

/-!
# Blocks of addresses

A block of addresses holds the addresses of one family that share their leading bits. The classes of
addresses that nobody outside can reach are lists of blocks (`Block.unroutable`). Admission judges
addresses with masks instead: for IPv4 addresses that is the same, and IPv6 addresses in the
link-local block are overlooked (`Ip.isUnroutable_v6_iff`).
-/

namespace OverlayStore.Net

namespace Ip

/-- The IPv6 address with two groups at its ends and zeros between them. -/
def ofEnds (first last : UInt16) : Ip := .v6 #v[first, 0, 0, 0, 0, 0, 0, last]

/-- The address as a number. -/
def toNat : Ip → Nat
  | .v4 word => word.toNat
  | .v6 groups => groups.toList.foldl (fun number group => number * 2 ^ 16 + group.toNat) 0

/-- How many bits the addresses of a family have. -/
def width : Ip → Nat
  | .v4 _ => 32
  | .v6 _ => 128

/-- The IPv4 address that an IPv6 address maps, and every other address itself. -/
def unmapped (ip : Ip) : Ip := ip.v4Form?.elim ip .v4

end Ip

/-- The addresses that share their leading bits. -/
structure Block where
  /-- The first address. -/
  start : Ip
  /-- How many bits are shared. -/
  length : Nat

namespace Block

/-- An address is in a block: it belongs to the same family and has the same leading bits. -/
def Contains (block : Block) (ip : Ip) : Prop :=
  ip.width = block.start.width ∧
    ip.toNat / 2 ^ (ip.width - block.length) = block.start.toNat / 2 ^ (ip.width - block.length)

instance (block : Block) (ip : Ip) : Decidable (block.Contains ip) :=
  inferInstanceAs (Decidable (_ ∧ _))

/-- The IPv6 addresses of a single link. -/
def linkLocal : Block := ⟨.ofEnds 0xfe80 0, 10⟩

/-- The unspecified, private, loopback and link-local addresses of both families. -/
def unroutable : List Block :=
  [⟨.ofOctets 0 0 0 0, 32⟩, ⟨.ofOctets 10 0 0 0, 8⟩, ⟨.ofOctets 172 16 0 0, 12⟩,
    ⟨.ofOctets 192 168 0 0, 16⟩, ⟨.ofOctets 127 0 0 0, 8⟩, ⟨.ofOctets 169 254 0 0, 16⟩,
    ⟨.ofEnds 0 0, 128⟩, ⟨.ofEnds 0 1, 128⟩, ⟨.ofEnds 0xfc00 0, 7⟩, linkLocal]

end Block

/-- Nobody outside can reach the address. -/
def Ip.IsUnroutable (ip : Ip) : Prop := ∃ block ∈ Block.unroutable, block.Contains ip

instance (ip : Ip) : Decidable ip.IsUnroutable :=
  inferInstanceAs (Decidable (∃ block ∈ Block.unroutable, block.Contains ip))

/-! ## Masks -/

/-- A mask of leading bits clears the bits below them. -/
theorem and_leading {n width low : Nat} (hn : n < 2 ^ width) (hlow : low ≤ width) :
    n &&& (2 ^ width - 2 ^ low) = n / 2 ^ low * 2 ^ low := by
  have hmask : 2 ^ width - 2 ^ low = (2 ^ (width - low) - 1) * 2 ^ low := by
    rw [Nat.sub_mul, ← Nat.pow_add, Nat.sub_add_cancel hlow, Nat.one_mul]
  have hquotient : n / 2 ^ low < 2 ^ (width - low) := by
    rw [Nat.div_lt_iff_lt_mul (Nat.two_pow_pos low), ← Nat.pow_add, Nat.sub_add_cancel hlow]
    exact hn
  -- above the mask's lowest bit all bits stay, and below it none does
  have hhigh : (n &&& (2 ^ width - 2 ^ low)) / 2 ^ low = n / 2 ^ low := by
    rw [Nat.and_div_two_pow, hmask, Nat.mul_div_cancel _ (Nat.two_pow_pos low),
      Nat.and_two_pow_sub_one_eq_mod, Nat.mod_eq_of_lt hquotient]
  have hbelow : (n &&& (2 ^ width - 2 ^ low)) % 2 ^ low = 0 := by
    rw [Nat.and_mod_two_pow, hmask, Nat.mul_mod_left, Nat.and_zero]
  rw [← hhigh, Nat.div_mul_cancel (Nat.dvd_of_mod_eq_zero hbelow)]

/-- Numbers that agree under a mask of leading bits agree in those bits. -/
theorem and_leading_eq_iff {a b width low : Nat} (ha : a < 2 ^ width) (hb : b < 2 ^ width)
    (hlow : low ≤ width) :
    a &&& (2 ^ width - 2 ^ low) = b &&& (2 ^ width - 2 ^ low) ↔ a / 2 ^ low = b / 2 ^ low := by
  rw [and_leading ha hlow, and_leading hb hlow]
  exact Nat.mul_left_inj (Nat.two_pow_pos low).ne'

/-- IPv4 words that agree under a mask of leading bits are in the same block. -/
theorem Block.contains_v4_iff {start mask : UInt32} {length : Nat}
    (hmask : mask.toNat = 2 ^ 32 - 2 ^ (32 - length)) (word : UInt32) :
    (⟨.v4 start, length⟩ : Block).Contains (.v4 word) ↔ word &&& mask = start &&& mask := by
  rw [← UInt32.toNat_inj, UInt32.toNat_and, UInt32.toNat_and, hmask,
    and_leading_eq_iff word.toNat_lt start.toNat_lt (Nat.sub_le 32 length)]
  simp [Contains, Ip.width, Ip.toNat]

namespace Ip

/-! ## IPv4 addresses -/

/-- An address stands for an IPv4 address if that is its IPv4 form. -/
theorem unmapped_eq_v4_iff (ip : Ip) (word : UInt32) :
    ip.unmapped = .v4 word ↔ ip.v4Form? = some word := by
  cases ip with
  | v4 other => simp [unmapped, v4Form?]
  | v6 groups => cases h : mapped? groups <;> simp [unmapped, v4Form?, h]

/-- An IPv6 address that maps no IPv4 address stands for itself. -/
theorem unmapped_of_mapped?_eq_none {groups : Vector UInt16 8} (h : mapped? groups = none) :
    (v6 groups).unmapped = v6 groups := by
  rw [unmapped, v4Form?, h]
  rfl

/-- A mask that keeps the shared bits tells whether an IPv4 address is in a block. -/
theorem contains_iff_inBlock {start mask : UInt32} {length : Nat}
    (hmask : mask.toNat = 2 ^ 32 - 2 ^ (32 - length)) (hstart : start &&& mask = start)
    (word : UInt32) :
    (⟨.v4 start, length⟩ : Block).Contains (.v4 word) ↔ inBlock word start mask = true := by
  rw [Block.contains_v4_iff hmask, hstart, inBlock, decide_eq_true_eq]

/-- An IPv4 address is unroutable exactly if it is unspecified or taken for private. -/
theorem isUnroutable_v4_iff (word : UInt32) :
    (v4 word).IsUnroutable ↔ (v4 word).isUnspecified = true ∨ (v4 word).isPrivate = true := by
  have hother : ∀ groups length, ¬ (⟨.v6 groups, length⟩ : Block).Contains (.v4 word) :=
    fun _ _ h => absurd h.1 (Nat.ne_of_lt (by decide : 32 < 128))
  have hzero : (⟨.ofOctets 0 0 0 0, 32⟩ : Block).Contains (.v4 word) ↔ word = 0 := by
    rw [← UInt32.toNat_inj]
    simp [Block.Contains, ofOctets, width, toNat]
  simp only [IsUnroutable, Block.unroutable, Block.linkLocal, ofEnds, List.mem_cons,
    List.not_mem_nil, or_false, exists_eq_or_imp, exists_eq_left, hother, hzero, isUnspecified,
    isPrivate, decide_eq_true_eq, Bool.or_eq_true, or_assoc]
  -- the other blocks are tested in the order in which they are listed
  refine or_congr Iff.rfl (or_congr ?_ (or_congr ?_ (or_congr ?_ (or_congr ?_ ?_)))) <;>
    exact contains_iff_inBlock rfl rfl word

/-! ## IPv6 addresses -/

theorem exists_eq_groups (groups : Vector UInt16 8) :
    ∃ a b c d e f g h, groups = #v[a, b, c, d, e, f, g, h] := by
  obtain ⟨⟨list⟩, hsize⟩ := groups
  match list, hsize with
  | [a, b, c, d, e, f, g, h], _ => exact ⟨a, b, c, d, e, f, g, h, rfl⟩

/-- A block of IPv6 addresses is known by its leading bits. -/
theorem contains_v6_iff (start groups : Vector UInt16 8) (length : Nat) :
    (⟨.v6 start, length⟩ : Block).Contains (v6 groups) ↔
      (v6 groups).toNat / 2 ^ (128 - length) = (v6 start).toNat / 2 ^ (128 - length) := by
  simp [Block.Contains, width]

/-- The unspecified IPv6 address is zero. -/
theorem isUnspecified_v6_iff (groups : Vector UInt16 8) :
    (v6 groups).isUnspecified = true ↔ (v6 groups).toNat = 0 := by
  obtain ⟨a, b, c, d, e, f, g, h, rfl⟩ := exists_eq_groups groups
  simp [isUnspecified, toNat, ← UInt16.toNat_inj, and_assoc]

/-- An IPv6 address is taken for private if it is the loopback address or has the seven leading bits
of unique local addresses. -/
theorem isPrivate_v6_iff (groups : Vector UInt16 8) :
    (v6 groups).isPrivate = true ↔
      (v6 groups).toNat = 1 ∨ (v6 groups).toNat / 2 ^ 121 = 0xfc00 / 2 ^ 9 := by
  obtain ⟨a, b, c, d, e, f, g, h, rfl⟩ := exists_eq_groups groups
  have hmask : a &&& 0xfe00 = 0xfc00 ↔ a.toNat / 2 ^ 9 = 0xfc00 / 2 ^ 9 := by
    rw [← UInt16.toNat_inj, UInt16.toNat_and]
    exact and_leading_eq_iff a.toNat_lt (by decide : 0xfc00 < 2 ^ 16) (by decide : 9 ≤ 16)
  have hb := b.toNat_lt
  have hc := c.toNat_lt
  have hd := d.toNat_lt
  have he := e.toNat_lt
  have hf := f.toNat_lt
  have hg := g.toNat_lt
  have hh := h.toNat_lt
  -- the leading bits of the address are those of its first group
  simp only [isPrivate, Bool.or_eq_true, decide_eq_true_eq]
  refine or_congr ?_ (hmask.trans ?_)
  · simp [toNat, ← UInt16.toNat_inj]
    omega
  · simp [toNat]
    omega

/-- An IPv6 address is unroutable exactly if it is unspecified, taken for private or link-local. -/
theorem isUnroutable_v6_iff (groups : Vector UInt16 8) :
    (v6 groups).IsUnroutable ↔ (v6 groups).isUnspecified = true ∨ (v6 groups).isPrivate = true ∨
      Block.linkLocal.Contains (v6 groups) := by
  have hother : ∀ word length, ¬ (⟨.v4 word, length⟩ : Block).Contains (v6 groups) :=
    fun _ _ h => absurd h.1 (Nat.ne_of_gt (by decide : 32 < 128))
  simp only [IsUnroutable, Block.unroutable, ofOctets, ofEnds, List.mem_cons, List.not_mem_nil,
    or_false, exists_eq_or_imp, exists_eq_left, hother, false_or, Block.linkLocal, contains_v6_iff,
    isUnspecified_v6_iff, isPrivate_v6_iff, or_assoc]
  simp [toNat]

/-- An IPv6 address that maps an IPv4 address has the bits of that and sixteen ones before them. -/
theorem toNat_of_mapped? {groups : Vector UInt16 8} {word : UInt32}
    (hmapped : mapped? groups = some word) :
    2 ^ 32 ≤ (v6 groups).toNat ∧ (v6 groups).toNat < 2 ^ 48 := by
  obtain ⟨a, b, c, d, e, f, g, h, rfl⟩ := exists_eq_groups groups
  have hg := g.toNat_lt
  have hh := h.toNat_lt
  simp [mapped?] at hmapped
  obtain ⟨⟨rfl, rfl, rfl, rfl, rfl, rfl⟩, -⟩ := hmapped
  simp [toNat]
  omega

end Ip

end OverlayStore.Net
