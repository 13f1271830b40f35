import Mathlib.Data.Finset.Card
import ShaderVariants.Proofs.Keys

/-!
What rules on keys come to. A rule is read by the bits that a key shares with its mask: all of the
mask or none of it, or one bit at most. Rules that ask for any bit at all refuse nothing, since no
rule speaks of keys that share no bit with it. So the admissible keys depend on the set of the other
rules only, and "only one" says no more than "at most one".
-/

namespace ShaderVariants

namespace Rule

def Shares (r : Rule) (k : Key) (bit : Nat) : Prop :=
  r.mask.testBit bit = true ∧ k.mask.testBit bit = true

/-- Whether a rule lets a key pass, by the bits that they share. -/
def Permits (r : Rule) (k : Key) : Prop :=
  match r.kind with
  | .anyBitSet => True
  | .allBitsSet =>
      (∀ bit, ¬r.Shares k bit) ∨ ∀ bit, r.mask.testBit bit = true → k.mask.testBit bit = true
  | .onlyOneBitSet => ∀ bit other, r.Shares k bit → r.Shares k other → bit = other
  | .maxOneBitSet => ∀ bit other, r.Shares k bit → r.Shares k other → bit = other

/-! ## Shared bits -/

section
variable (r : Rule) (k : Key)

theorem testBit_shared (bit : Nat) :
    (k.mask &&& r.mask).testBit bit = true ↔ r.Shares k bit := by
  rw [Nat.testBit_and, Bool.and_eq_true, and_comm]
  rfl

theorem appliesTo_eq_false_iff : r.appliesTo k = false ↔ ∀ bit, ¬r.Shares k bit := by
  rw [appliesTo, bne_eq_false_iff_eq]
  constructor
  · intro none bit shares
    rw [← testBit_shared, none, Nat.zero_testBit] at shares
    cases shares
  · intro none
    apply Nat.eq_of_testBit_eq
    intro bit
    rw [Nat.zero_testBit, ← Bool.not_eq_true, testBit_shared]
    exact none bit

theorem covers_iff : k.mask &&& r.mask = r.mask ↔
    ∀ bit, r.mask.testBit bit = true → k.mask.testBit bit = true := by
  constructor
  · intro whole bit inside
    rw [← whole, testBit_shared] at inside
    exact inside.2
  · intro covers
    apply Nat.eq_of_testBit_eq
    intro bit
    rw [Bool.eq_iff_iff, testBit_shared]
    exact ⟨And.left, fun inside => ⟨inside, covers bit inside⟩⟩

theorem mem_setBits_shared (small : k.mask < 2 ^ maxDefines) (bit : Nat) :
    bit ∈ setBits (k.mask &&& r.mask) ↔ r.Shares k bit := by
  have fits : k.mask &&& r.mask < 2 ^ maxDefines := Nat.and_le_left.trans_lt small
  rw [setBits_eq_bitIndices _ fits, Nat.mem_bitIndices, testBit_shared]

theorem shared_few_iff (small : k.mask < 2 ^ maxDefines) :
    (setBits (k.mask &&& r.mask)).length ≤ 1 ↔
      ∀ bit other, r.Shares k bit → r.Shares k other → bit = other := by
  have distinct : (setBits (k.mask &&& r.mask)).Nodup := (setBits_ascending _).imp Nat.ne_of_lt
  rw [← List.toFinset_card_of_nodup distinct, Finset.card_le_one]
  simp only [List.mem_toFinset, mem_setBits_shared r k small]
  constructor
  · intro few bit other one two
    exact few bit one other two
  · intro few bit one other two
    exact few bit other one two

theorem shared_none_iff (small : k.mask < 2 ^ maxDefines) :
    (setBits (k.mask &&& r.mask)).length = 0 ↔ r.appliesTo k = false := by
  rw [List.length_eq_zero_iff, List.eq_nil_iff_forall_not_mem, appliesTo_eq_false_iff]
  simp only [mem_setBits_shared r k small]

/-- A rule admits the keys that it does not speak of and those that it allows: these are the keys
that it permits. -/
theorem admits_iff_permits (small : k.mask < 2 ^ maxDefines) :
    (!r.appliesTo k || r.allows k) = true ↔ r.Permits k := by
  have few := shared_few_iff r k small
  have none := shared_none_iff r k small
  rw [Bool.or_eq_true, Bool.not_eq_true', allows, Permits]
  cases r.kind with
  | anyBitSet =>
    rw [iff_true]
    exact (Bool.eq_false_or_eq_true (r.appliesTo k)).symm
  | allBitsSet =>
    dsimp only
    rw [appliesTo_eq_false_iff, beq_iff_eq, covers_iff]
  | onlyOneBitSet =>
    dsimp only
    rw [← few, ← none, beq_iff_eq]
    omega
  | maxOneBitSet =>
    dsimp only
    rw [← few, ← none, decide_eq_true_eq]
    omega

end

theorem admits_eq_true_iff (rules : List Rule) (k : Key) (small : k.mask < 2 ^ maxDefines) :
    admits rules k = true ↔ ∀ r ∈ rules, r.Permits k := by
  rw [admits, List.all_eq_true]
  exact forall₂_congr fun r _ => admits_iff_permits r k small

/-- Whether a rule is the same as another, but may ask for at most one bit in place of only one. -/
inductive Loosened : Rule → Rule → Prop where
  | same (r : Rule) : Loosened r r
  | atMostOne (mask : Nat) : Loosened ⟨.onlyOneBitSet, mask⟩ ⟨.maxOneBitSet, mask⟩

theorem Loosened.permits_iff {r other : Rule} (loosened : Loosened r other) (k : Key) :
    r.Permits k ↔ other.Permits k := by
  cases loosened <;> exact Iff.rfl

theorem loosened_permit_iff {rules others : List Rule}
    (loosened : List.Forall₂ Loosened rules others) (k : Key) :
    (∀ r ∈ others, r.Permits k) ↔ ∀ r ∈ rules, r.Permits k := by
  induction loosened with
  | nil => exact Iff.rfl
  | cons first _ ih => rw [List.forall_mem_cons, List.forall_mem_cons, ih, first.permits_iff]

end Rule

/-! ## Admissible keys -/

section
variable (shader stage : String) (count : Nat)

private theorem wide_enough {count mask : Nat} (few : count ≤ maxDefines)
    (small : mask < 2 ^ count) : mask < 2 ^ maxDefines :=
  small.trans_le (Nat.pow_le_pow_right (by decide) few)

theorem mem_admissibleKeys_iff_permits (few : count ≤ maxDefines) (rules : List Rule) (k : Key) :
    k ∈ admissibleKeys count rules ↔
      0 < k.mask ∧ k.mask < 2 ^ count ∧ ∀ r ∈ rules, r.Permits k := by
  rw [mem_admissibleKeys]
  refine and_congr_right fun _ => and_congr_right fun small => ?_
  exact Rule.admits_eq_true_iff rules k (wide_enough few small)

theorem keysFor_congr {rules others : List Rule}
    (same : ∀ k, (∀ r ∈ others, r.Permits k) ↔ ∀ r ∈ rules, r.Permits k) :
    keysFor shader stage count others = keysFor shader stage count rules := by
  unfold keysFor
  split
  case isTrue => rfl
  case isFalse few =>
    have few : count ≤ maxDefines := Nat.le_of_not_lt few
    have keys : admissibleKeys count others = admissibleKeys count rules := by
      apply List.filter_congr
      intro k member
      obtain ⟨mask, inside, rfl⟩ := List.mem_map.mp member
      have small : mask < 2 ^ count := by
        have bound := List.mem_range.mp (List.mem_of_mem_drop inside)
        rwa [Nat.one_shiftLeft] at bound
      have wide := wide_enough few small
      rw [Bool.eq_iff_iff, Rule.admits_eq_true_iff others _ wide,
        Rule.admits_eq_true_iff rules _ wide]
      exact same _
    rw [keys]

/-- The admissible keys over some defines come in strictly ascending order, and they are those with
bits for these defines only that every rule permits. They do not depend on the order of rules or on
how often one is given, on whether a rule says "only one" or "at most one", or on rules that ask for
any bit. More defines than a key has bits for are refused. -/
theorem admissible_keys_permitted (rules : List Rule) :
    (maxDefines < count → keysFor shader stage count rules =
      .error (.tooManyDefines shader stage count)) ∧
    (count ≤ maxDefines → ∃ keys, keysFor shader stage count rules = .ok keys ∧
      keys.Pairwise (·.mask < ·.mask) ∧
      ∀ k, k ∈ keys ↔ 0 < k.mask ∧ k.mask < 2 ^ count ∧ ∀ r ∈ rules, r.Permits k) ∧
    (∀ others : List Rule, (∀ r, r ∈ others ↔ r ∈ rules) →
      keysFor shader stage count others = keysFor shader stage count rules) ∧
    (∀ others, List.Forall₂ Rule.Loosened rules others →
      keysFor shader stage count others = keysFor shader stage count rules) ∧
    ∀ keep : Rule → Bool, (∀ r ∈ rules, keep r = false → r.kind = .anyBitSet) →
      keysFor shader stage count (rules.filter keep) = keysFor shader stage count rules := by
  refine ⟨fun many => if_pos many, fun few => ?_, fun others same => ?_, fun others loosened => ?_,
    fun keep dropped => ?_⟩
  · refine ⟨admissibleKeys count rules, if_neg (Nat.not_lt.mpr few), ?_, ?_⟩
    · exact admissibleKeys_ascending count rules
    · exact mem_admissibleKeys_iff_permits count few rules
  · apply keysFor_congr
    intro k
    simp only [same]
  · exact keysFor_congr shader stage count (Rule.loosened_permit_iff loosened)
  · apply keysFor_congr
    intro k
    constructor
    · intro permitted r member
      cases kept : keep r with
      | true => exact permitted r (List.mem_filter.mpr ⟨member, kept⟩)
      | false =>
        rw [Rule.Permits, dropped r member kept]
        trivial
    · intro permitted r member
      exact permitted r (List.mem_filter.mp member).1

end
end ShaderVariants
