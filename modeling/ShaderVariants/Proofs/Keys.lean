import Mathlib.Data.List.Sort
import Mathlib.Data.Nat.BitIndices
import ShaderVariants.Variant.Basic

/-!
Keys and the defines that they stand for. The bits of a key below the width of keys are all of
its bits, the admissible keys come in strictly ascending order, and a key over the defines of a
stage stands for one define at each of its bits.
-/

namespace ShaderVariants

/-! ## Bits -/

@[simp] theorem mem_setBits (mask bit : Nat) :
    bit ∈ setBits mask ↔ bit < maxDefines ∧ mask.testBit bit = true := by
  simp [setBits]

theorem setBits_ascending (mask : Nat) : (setBits mask).Pairwise (· < ·) :=
  List.pairwise_lt_range.filter _

private theorem bit_lt_of_small (mask bit width : Nat) (small : mask < 2 ^ width)
    (found : mask.testBit bit = true) : bit < width := by
  by_contra high
  have larger : 2 ^ width ≤ 2 ^ bit := Nat.pow_le_pow_right (by decide) (by omega)
  have clear := Nat.testBit_lt_two_pow (small.trans_le larger)
  rw [found] at clear
  cases clear

/-- A mask as wide as a key has no bits beyond those that are looked at. -/
theorem setBits_eq_bitIndices (mask : Nat) (small : mask < 2 ^ maxDefines) :
    setBits mask = mask.bitIndices := by
  apply (setBits_ascending mask).sortedLT.eq_of_mem_iff Nat.bitIndices_sorted
  intro bit
  rw [mem_setBits, Nat.mem_bitIndices]
  constructor
  · intro found
    exact found.2
  · intro found
    exact ⟨bit_lt_of_small mask bit maxDefines small found, found⟩

theorem Key.bitIndices_eq_nil (key : Key) : key.mask.bitIndices = [] ↔ key = .base := by
  constructor
  · intro none
    have mask := Nat.sum_map_two_pow_bitIndices key.mask
    rw [none] at mask
    cases key
    exact congrArg Key.mk mask.symm
  · rintro rfl
    exact Nat.bitIndices_zero

/-! ## Admissible keys -/

private theorem mem_positive_range (count mask : Nat) :
    mask ∈ (List.range count).drop 1 ↔ 0 < mask ∧ mask < count := by
  rw [List.range_eq_range', List.drop_range', List.mem_range'_1]
  omega

theorem mem_admissibleKeys (count : Nat) (rules : List Rule) (key : Key) :
    key ∈ admissibleKeys count rules ↔
      0 < key.mask ∧ key.mask < 2 ^ count ∧ Rule.admits rules key = true := by
  have named : (∃ mask, mask ∈ (List.range (1 <<< count)).drop 1 ∧ Key.mk mask = key) ↔
      0 < key.mask ∧ key.mask < 2 ^ count := by
    simp only [mem_positive_range, Nat.one_shiftLeft]
    constructor
    · rintro ⟨mask, bounds, rfl⟩
      exact bounds
    · intro bounds
      exact ⟨key.mask, bounds, rfl⟩
  rw [admissibleKeys, List.mem_filter, List.mem_map, named, and_assoc]

theorem admissibleKeys_ascending (count : Nat) (rules : List Rule) :
    (admissibleKeys count rules).Pairwise (·.mask < ·.mask) := by
  have masks : ((List.range (1 <<< count)).drop 1).Pairwise (· < ·) :=
    List.pairwise_lt_range.drop
  have keys : (((List.range (1 <<< count)).drop 1).map Key.mk).Pairwise (·.mask < ·.mask) :=
    List.pairwise_map.mpr masks
  exact keys.filter _

/-! ## Defines of a key -/

namespace Variant

/-- A key over the defines has a define at each of its bits, and none is left out. -/
theorem definesOf_at_bits (key : Key) (defines : List String)
    (few : defines.length ≤ maxDefines) (small : key.mask < 2 ^ defines.length) :
    (definesOf key defines).map some = key.mask.bitIndices.map (defines[·]?) := by
  have wide : key.mask < 2 ^ maxDefines :=
    small.trans_le (Nat.pow_le_pow_right (by decide) few)
  have present : ∀ bit ∈ key.mask.bitIndices, (defines[bit]?).isSome := by
    intro bit member
    have found : key.mask.testBit bit = true := Nat.mem_bitIndices.mp member
    have low := bit_lt_of_small key.mask bit defines.length small found
    simp [low]
  rw [definesOf, Key.active, setBits_eq_bitIndices key.mask wide]
  rw [List.map_filterMap_some_eq_filter_map_isSome, List.filter_eq_self]
  intro define member
  obtain ⟨bit, inside, rfl⟩ := List.mem_map.mp member
  exact present bit inside

theorem definesOf_eq_nil_iff (key : Key) (defines : List String)
    (few : defines.length ≤ maxDefines) (small : key.mask < 2 ^ defines.length) :
    definesOf key defines = [] ↔ key = .base := by
  have bits := congrArg List.length (definesOf_at_bits key defines few small)
  rw [List.length_map, List.length_map] at bits
  rw [← List.length_eq_zero_iff, bits, List.length_eq_zero_iff, Key.bitIndices_eq_nil]

theorem mem_definesOf_iff (key : Key) (defines : List String) (few : defines.length ≤ maxDefines)
    (small : key.mask < 2 ^ defines.length) (distinct : defines.Nodup) (bit : Nat)
    (low : bit < defines.length) :
    defines[bit] ∈ definesOf key defines ↔ key.mask.testBit bit = true := by
  have bits := definesOf_at_bits key defines few small
  have member : defines[bit] ∈ definesOf key defines ↔
      some defines[bit] ∈ (definesOf key defines).map some := by
    simp
  rw [member, bits, List.mem_map]
  constructor
  · rintro ⟨other, inside, same⟩
    have here : defines[bit]? = defines[other]? := by
      rw [same, List.getElem?_eq_getElem low]
    rw [List.getElem?_inj low distinct] at here
    rw [here]
    exact Nat.mem_bitIndices.mp inside
  · intro found
    exact ⟨bit, Nat.mem_bitIndices.mpr found, List.getElem?_eq_getElem low⟩

theorem definesOf_injective (key other : Key) (defines : List String)
    (few : defines.length ≤ maxDefines) (small : key.mask < 2 ^ defines.length)
    (small' : other.mask < 2 ^ defines.length) (distinct : defines.Nodup)
    (same : definesOf key defines = definesOf other defines) : key = other := by
  have bits (bit : Nat) : key.mask.testBit bit = other.mask.testBit bit := by
    by_cases low : bit < defines.length
    · rw [Bool.eq_iff_iff, ← mem_definesOf_iff key defines few small distinct bit low, same]
      exact mem_definesOf_iff other defines few small' distinct bit low
    · have above : 2 ^ defines.length ≤ 2 ^ bit :=
        Nat.pow_le_pow_right (by decide) (Nat.le_of_not_lt low)
      rw [Nat.testBit_lt_two_pow (small.trans_le above),
        Nat.testBit_lt_two_pow (small'.trans_le above)]
  cases key
  cases other
  exact congrArg Key.mk (Nat.eq_of_testBit_eq bits)

end Variant
end ShaderVariants
