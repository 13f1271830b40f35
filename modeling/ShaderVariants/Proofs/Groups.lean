import Mathlib.Combinatorics.Colex
import ShaderVariants.Description
import ShaderVariants.Proofs.Refusals
import ShaderVariants.Proofs.Rules

/-!
Rules read by sets of bits. A mask stands for the set of its bits, and a rule on a group of bits
looks at those of a key that are in the group: there are none of them, or as many as the kind of
the rule asks for. A rule that is made of bits has these bits for its group, however often and in
whatever order they are given.
-/

namespace ShaderVariants

def bitSet (mask : Nat) : Finset Nat := mask.bitIndices.toFinset

@[simp] theorem mem_bitSet {mask bit : Nat} : bit ∈ bitSet mask ↔ mask.testBit bit = true := by
  rw [bitSet, List.mem_toFinset, Nat.mem_bitIndices]

theorem bitSet_zero : bitSet 0 = ∅ := by
  rw [bitSet, Nat.bitIndices_zero, List.toFinset_nil]

theorem bitSet_injective : Function.Injective bitSet := Finset.equivBitIndices.injective

theorem bitSet_surjective : Function.Surjective bitSet := Finset.equivBitIndices.surjective

theorem bitSet_or (mask other : Nat) : bitSet (mask ||| other) = bitSet mask ∪ bitSet other := by
  ext bit
  rw [Finset.mem_union, mem_bitSet, mem_bitSet, mem_bitSet, Nat.testBit_or, Bool.or_eq_true]

theorem bitSet_two_pow (bit : Nat) : bitSet (2 ^ bit) = {bit} := by
  rw [bitSet, Nat.bitIndices_two_pow, List.toFinset_cons, List.toFinset_nil, insert_empty_eq]

theorem bitSet_subset_range {mask width : Nat} :
    bitSet mask ⊆ Finset.range width ↔ mask < 2 ^ width := by
  constructor
  · intro inside
    apply Nat.lt_pow_two_of_testBit
    intro bit high
    by_contra found
    have member := inside (mem_bitSet.mpr (Bool.eq_true_of_not_eq_false found))
    rw [Finset.mem_range] at member
    omega
  · intro small bit member
    rw [Finset.mem_range]
    by_contra high
    have above : 2 ^ width ≤ 2 ^ bit := Nat.pow_le_pow_right (by decide) (by omega)
    have clear := Nat.testBit_lt_two_pow (small.trans_le above)
    rw [mem_bitSet, clear] at member
    cases member

/-! ## Groups -/

/-- Whether a rule of some kind on a group is satisfied by the bits of the group that a key has. -/
def RuleKind.Allows (kind : RuleKind) (group shared : Finset Nat) : Prop :=
  match kind with
  | .anyBitSet => shared.Nonempty
  | .allBitsSet => shared = group
  | .onlyOneBitSet => shared.card = 1
  | .maxOneBitSet => shared.card ≤ 1

/-- Whether some bits have none of a group or satisfy a rule of some kind on it. -/
def RuleKind.Passes (kind : RuleKind) (group bits : Finset Nat) : Prop :=
  bits ∩ group = ∅ ∨ kind.Allows group (bits ∩ group)

/-- What a rule permits are the keys whose bits pass it. -/
theorem Rule.permits_iff_passes (r : Rule) (k : Key) :
    r.Permits k ↔ r.kind.Passes (bitSet r.mask) (bitSet k.mask) := by
  have shares (bit : Nat) : bit ∈ bitSet k.mask ∩ bitSet r.mask ↔ r.Shares k bit := by
    rw [Finset.mem_inter, mem_bitSet, mem_bitSet, and_comm]
    rfl
  have few : (bitSet k.mask ∩ bitSet r.mask).card ≤ 1 ↔
      ∀ bit other, r.Shares k bit → r.Shares k other → bit = other := by
    rw [Finset.card_le_one]
    simp only [shares]
    constructor
    · intro few bit other one two
      exact few bit one other two
    · intro few bit one other two
      exact few bit other one two
  have none := Finset.card_eq_zero (s := bitSet k.mask ∩ bitSet r.mask)
  unfold Permits RuleKind.Passes RuleKind.Allows
  cases r.kind with
  | anyBitSet =>
    dsimp only
    rw [true_iff]
    exact Finset.eq_empty_or_nonempty _
  | allBitsSet =>
    dsimp only
    rw [Finset.inter_eq_right, Finset.eq_empty_iff_forall_notMem]
    simp only [shares, Finset.subset_iff, mem_bitSet]
  | onlyOneBitSet =>
    dsimp only
    rw [← few, ← none]
    omega
  | maxOneBitSet =>
    dsimp only
    rw [← few, ← none]
    omega

/-- The admissible keys over some defines have bits for these only, and their bits pass every
rule. -/
theorem mem_admissibleKeys_iff_passes {count : Nat} (few : count ≤ maxDefines) (rules : List Rule)
    (k : Key) : k ∈ admissibleKeys count rules ↔
      0 < k.mask ∧ k.mask < 2 ^ count ∧
        ∀ r ∈ rules, r.kind.Passes (bitSet r.mask) (bitSet k.mask) := by
  rw [mem_admissibleKeys_iff_permits count few]
  simp only [Rule.permits_iff_passes]

/-! ## Rules made of bits -/

theorem mem_bitSet_foldl {α : Type} (mask : Nat) (f : α → Nat) (l : List α) (bit : Nat) :
    bit ∈ bitSet (l.foldl (fun mask a => mask ||| f a) mask) ↔
      bit ∈ bitSet mask ∨ ∃ a ∈ l, bit ∈ bitSet (f a) := by
  induction l generalizing mask with
  | nil => simp
  | cons a l ih =>
    rw [List.foldl_cons, ih, bitSet_or, Finset.mem_union, or_assoc]
    simp only [List.mem_cons, exists_eq_or_imp]

def maskOf (bits : List Nat) : Nat := bits.foldl (fun mask bit => mask ||| 1 <<< bit) 0

theorem bitSet_maskOf (bits : List Nat) : bitSet (maskOf bits) = bits.toFinset := by
  ext bit
  rw [maskOf, mem_bitSet_foldl, bitSet_zero, List.mem_toFinset]
  simp only [Nat.one_shiftLeft, bitSet_two_pow, Finset.mem_singleton, Finset.notMem_empty,
    false_or, exists_eq_right']

/-- A rule is made of bits that all stand for defines; else the first that does not is refused. -/
theorem Rule.ofBits_eq (kind : RuleKind) (bits : List Nat) (count : Nat) :
    ofBits kind bits count =
      match bits.find? (¬· < min count maxDefines) with
      | some bit => .error (.ruleBitOutOfRange bit count)
      | none => .ok ⟨kind, maskOf bits⟩ := by
  have masks (mask : Nat) : maskOfBits count mask bits =
      match bits.find? (¬· < min count maxDefines) with
      | some bit => .error (.ruleBitOutOfRange bit count)
      | none => .ok (bits.foldl (fun mask bit => mask ||| 1 <<< bit) mask) := by
    induction bits generalizing mask with
    | nil => rfl
    | cons bit bits ih =>
      rw [maskOfBits]
      by_cases low : bit < min count maxDefines
      · rw [if_pos low, ih, List.find?_cons_of_neg (by simp [low]), List.foldl_cons]
      · rw [if_neg low, List.find?_cons_of_pos (by simp [low])]
  rw [ofBits, masks]
  cases bits.find? (¬· < min count maxDefines) <;> rfl

namespace Description.Rule

def group (r : Description.Rule) : Finset Nat := r.bits.toFinset

theorem mem_group {r : Description.Rule} {bit : Nat} : bit ∈ r.group ↔ bit ∈ r.bits :=
  List.mem_toFinset

def made (r : Description.Rule) : ShaderVariants.Rule := ⟨r.kind, maskOf r.bits⟩

theorem passes_made (r : Description.Rule) (bits : Finset Nat) :
    r.made.kind.Passes (bitSet r.made.mask) bits ↔ r.kind.Passes r.group bits := by
  rw [made, bitSet_maskOf, group]

theorem made_of_below {count : Nat} (r : Description.Rule)
    (below : ∀ bit ∈ r.bits, bit < min count maxDefines) :
    ShaderVariants.Rule.ofBits r.kind r.bits count = .ok r.made := by
  have none : r.bits.find? (¬· < min count maxDefines) = none := by
    rw [List.find?_eq_none]
    intro bit member
    simp [below bit member]
  rw [ShaderVariants.Rule.ofBits_eq, none]
  rfl

theorem made_all {count : Nat} (rules : List Description.Rule)
    (below : ∀ r ∈ rules, ∀ bit ∈ r.bits, bit < min count maxDefines) :
    rules.mapM (fun r => ShaderVariants.Rule.ofBits r.kind r.bits count) =
      .ok (rules.map (·.made)) :=
  mapM_eq_ok fun r member => r.made_of_below (below r member)

end Description.Rule
end ShaderVariants
