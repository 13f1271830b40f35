import ShaderVariants.Proofs.Groups

/-!
How many keys rules leave. Rules on groups that share no bit act independently of each other: each
leaves a number of choices on its own group, whatever is chosen elsewhere, and the bits outside all
groups are free.
-/

namespace ShaderVariants

/-- How many choices a rule of some kind leaves on a group, the empty choice among them. -/
def RuleKind.choices (kind : RuleKind) (size : Nat) : Nat :=
  match kind with
  | .anyBitSet => 2 ^ size
  | .allBitsSet => 2
  | .onlyOneBitSet => size + 1
  | .maxOneBitSet => size + 1

instance (kind : RuleKind) (group shared : Finset Nat) : Decidable (kind.Allows group shared) :=
  match kind with
  | .anyBitSet => inferInstanceAs (Decidable shared.Nonempty)
  | .allBitsSet => inferInstanceAs (Decidable (shared = group))
  | .onlyOneBitSet => inferInstanceAs (Decidable (shared.card = 1))
  | .maxOneBitSet => inferInstanceAs (Decidable (shared.card ≤ 1))

instance (kind : RuleKind) (group bits : Finset Nat) : Decidable (kind.Passes group bits) :=
  inferInstanceAs (Decidable (_ ∨ _))

/-! ## One group -/

private theorem card_few {group : Finset Nat} {asks : Finset Nat → Prop} [DecidablePred asks]
    (few : ∀ bits, asks bits ↔ bits.card ≤ 1) :
    (group.powerset.filter asks).card = group.card + 1 := by
  have parts : group.powerset.filter asks = group.powersetCard 0 ∪ group.powersetCard 1 := by
    ext bits
    rw [Finset.mem_filter, Finset.mem_powerset, Finset.mem_union, Finset.mem_powersetCard,
      Finset.mem_powersetCard, ← and_or_left, few]
    exact and_congr_right fun _ => by omega
  have apart : Disjoint (group.powersetCard 0) (group.powersetCard 1) :=
    Finset.pairwise_disjoint_powersetCard group (by decide)
  rw [parts, Finset.card_union_of_disjoint apart, Finset.card_powersetCard,
    Finset.card_powersetCard, Nat.choose_zero_right, Nat.choose_one_right, Nat.add_comm]

theorem RuleKind.card_passing (kind : RuleKind) {group : Finset Nat} (nonempty : group.Nonempty) :
    (group.powerset.filter (kind.Passes group)).card = kind.choices group.card := by
  have within : group.powerset.filter (kind.Passes group) =
      group.powerset.filter fun bits => bits = ∅ ∨ kind.Allows group bits := by
    apply Finset.filter_congr
    intro bits inside
    rw [Passes, Finset.inter_eq_left.mpr (Finset.mem_powerset.mp inside)]
  rw [within]
  cases kind with
  | anyBitSet =>
    rw [Finset.filter_true_of_mem, Finset.card_powerset, choices]
    intro bits _
    exact Finset.eq_empty_or_nonempty bits
  | allBitsSet =>
    have two : (group.powerset.filter fun bits =>
        bits = ∅ ∨ RuleKind.allBitsSet.Allows group bits) = {∅, group} := by
      ext bits
      rw [Finset.mem_filter, Finset.mem_insert, Finset.mem_singleton, Finset.mem_powerset]
      constructor
      · exact And.right
      · intro asked
        rcases asked with rfl | rfl
        · exact ⟨Finset.empty_subset group, Or.inl rfl⟩
        · exact ⟨le_rfl, Or.inr rfl⟩
    rw [two, Finset.card_pair nonempty.ne_empty.symm, choices]
  | onlyOneBitSet =>
    apply card_few
    intro bits
    rw [Allows, ← Finset.card_eq_zero]
    omega
  | maxOneBitSet =>
    apply card_few
    intro bits
    rw [Allows, ← Finset.card_eq_zero]
    omega

/-! ## Groups that share no bit -/

theorem RuleKind.passes_congr (kind : RuleKind) {group bits other : Finset Nat}
    (same : bits ∩ group = other ∩ group) : kind.Passes group bits ↔ kind.Passes group other := by
  rw [Passes, Passes, same]

private theorem union_parts {part ground chosen other : Finset Nat} (left : chosen ⊆ part)
    (right : other ⊆ ground \ part) :
    (chosen ∪ other) ∩ part = chosen ∧ (chosen ∪ other) \ part = other := by
  have apart : Disjoint other part := Finset.disjoint_of_subset_left right Finset.sdiff_disjoint
  constructor
  · rw [Finset.union_inter_distrib_right, Finset.inter_eq_left.mpr left,
      Finset.disjoint_iff_inter_eq_empty.mp apart, Finset.union_empty]
  · rw [Finset.union_sdiff_distrib, Finset.sdiff_eq_empty_iff_subset.mpr left,
      Finset.sdiff_eq_self_of_disjoint apart, Finset.empty_union]

/-- What is asked of a part and what is asked of the rest are independent. -/
private theorem card_parts {part ground : Finset Nat} (inside : part ⊆ ground)
    (p q : Finset Nat → Prop) [DecidablePred p] [DecidablePred q] :
    (ground.powerset.filter fun bits => p (bits ∩ part) ∧ q (bits \ part)).card =
      (part.powerset.filter p).card * ((ground \ part).powerset.filter q).card := by
  rw [← Finset.card_product]
  apply Finset.card_bij' (fun bits _ => (bits ∩ part, bits \ part)) (fun pair _ => pair.1 ∪ pair.2)
  · intro bits member
    rw [Finset.mem_filter, Finset.mem_powerset] at member
    rw [Finset.mem_product, Finset.mem_filter, Finset.mem_filter, Finset.mem_powerset,
      Finset.mem_powerset]
    exact ⟨⟨Finset.inter_subset_right, member.2.1⟩, Finset.sdiff_subset_sdiff member.1 le_rfl,
      member.2.2⟩
  · intro pair member
    rw [Finset.mem_product, Finset.mem_filter, Finset.mem_filter, Finset.mem_powerset,
      Finset.mem_powerset] at member
    obtain ⟨⟨left, first⟩, right, rest⟩ := member
    obtain ⟨inner, outer⟩ := union_parts left right
    rw [Finset.mem_filter, Finset.mem_powerset, inner, outer]
    exact ⟨Finset.union_subset (left.trans inside) (right.trans Finset.sdiff_subset), first, rest⟩
  · intro bits _
    rw [Finset.union_comm]
    exact Finset.sdiff_union_inter bits part
  · intro pair member
    rw [Finset.mem_product, Finset.mem_filter, Finset.mem_filter, Finset.mem_powerset,
      Finset.mem_powerset] at member
    obtain ⟨inner, outer⟩ := union_parts member.1.1 member.2.1
    exact Prod.ext inner outer

/-- Rules on groups that share no bit leave the product of their choices, for every choice of the
bits outside all groups. -/
theorem card_passing_all (rules : List Description.Rule) (ground : Finset Nat)
    (inside : ∀ r ∈ rules, r.group ⊆ ground) (nonempty : ∀ r ∈ rules, r.group.Nonempty)
    (apart : rules.Pairwise fun r other => Disjoint r.group other.group) :
    (ground.powerset.filter fun bits => ∀ r ∈ rules, r.kind.Passes r.group bits).card =
      2 ^ (ground.card - (rules.map (·.group.card)).sum) *
        (rules.map fun r => r.kind.choices r.group.card).prod := by
  induction rules generalizing ground with
  | nil =>
    rw [Finset.filter_true_of_mem (fun _ _ => List.forall_mem_nil _), Finset.card_powerset]
    simp
  | cons r rules ih =>
    rw [List.forall_mem_cons] at inside nonempty
    obtain ⟨here, later⟩ := List.pairwise_cons.mp apart
    let others (bits : Finset Nat) : Prop := ∀ other ∈ rules, other.kind.Passes other.group bits
    have first (bits : Finset Nat) :
        r.kind.Passes r.group bits ↔ r.kind.Passes r.group (bits ∩ r.group) :=
      r.kind.passes_congr (Finset.inter_right_idem ..).symm
    have rest (bits : Finset Nat) : others bits ↔ others (bits \ r.group) := by
      refine forall₂_congr fun other member => other.kind.passes_congr ?_
      rw [Finset.sdiff_inter_right_comm]
      apply (Finset.sdiff_eq_self_of_disjoint _).symm
      exact Finset.disjoint_of_subset_left Finset.inter_subset_right (here other member).symm
    have remaining : ∀ other ∈ rules, other.group ⊆ ground \ r.group := by
      intro other member
      exact Finset.subset_sdiff.mpr ⟨inside.2 other member, (here other member).symm⟩
    calc
      _ = (ground.powerset.filter fun bits =>
            r.kind.Passes r.group (bits ∩ r.group) ∧ others (bits \ r.group)).card := by
        refine congrArg Finset.card (Finset.filter_congr fun bits _ => ?_)
        rw [List.forall_mem_cons]
        exact and_congr (first bits) (rest bits)
      _ = r.kind.choices r.group.card *
            (2 ^ ((ground \ r.group).card - (rules.map (·.group.card)).sum) *
              (rules.map fun r => r.kind.choices r.group.card).prod) := by
        rw [card_parts inside.1 (r.kind.Passes r.group) others, r.kind.card_passing nonempty.1,
          ih (ground \ r.group) remaining nonempty.2 later]
      _ = _ := by
        rw [Finset.card_sdiff_of_subset inside.1, Nat.sub_sub, List.map_cons, List.sum_cons,
          List.map_cons, List.prod_cons, Nat.mul_left_comm]

/-! ## Keys -/

theorem admissibleKeys_length {count : Nat} (few : count ≤ maxDefines) (rules : List Rule) :
    (admissibleKeys count rules).length + 1 = ((Finset.range count).powerset.filter fun bits =>
      ∀ r ∈ rules, r.kind.Passes (bitSet r.mask) bits).card := by
  let keys := Key.base :: admissibleKeys count rules
  have ascending : keys.Pairwise (·.mask < ·.mask) := by
    refine List.pairwise_cons.mpr ⟨?_, admissibleKeys_ascending count rules⟩
    intro k member
    exact ((mem_admissibleKeys count rules k).mp member).1
  have distinct : (keys.map fun k => bitSet k.mask).Nodup := by
    apply List.pairwise_map.mpr
    exact ascending.imp fun less => bitSet_injective.ne less.ne
  have whole : (keys.map fun k => bitSet k.mask).toFinset =
      (Finset.range count).powerset.filter fun bits =>
        ∀ r ∈ rules, r.kind.Passes (bitSet r.mask) bits := by
    ext bits
    rw [List.mem_toFinset, List.mem_map, Finset.mem_filter, Finset.mem_powerset]
    constructor
    · rintro ⟨k, member, rfl⟩
      rcases List.mem_cons.mp member with rfl | further
      · rw [Key.base, bitSet_zero]
        exact ⟨Finset.empty_subset _, fun r _ => Or.inl (Finset.empty_inter _)⟩
      · rw [mem_admissibleKeys_iff_passes few] at further
        exact ⟨bitSet_subset_range.mpr further.2.1, further.2.2⟩
    · rintro ⟨inside, passes⟩
      obtain ⟨mask, rfl⟩ := bitSet_surjective bits
      refine ⟨⟨mask⟩, ?_, rfl⟩
      by_cases base : mask = 0
      · rw [base]
        exact List.mem_cons_self
      · apply List.mem_cons_of_mem
        rw [mem_admissibleKeys_iff_passes few]
        exact ⟨Nat.pos_of_ne_zero base, bitSet_subset_range.mp inside, passes⟩
  rw [← whole, List.toFinset_card_of_nodup distinct, List.length_map, List.length_cons]

/-- Rules that are made of groups of defines which share none act independently: with the base key
the admissible keys are as many as the product of the choices that each rule leaves on its group
and those of the defines outside all groups. -/
theorem disjoint_rules_count (shader stage : String) (count : Nat) (few : count ≤ maxDefines)
    (drafts : List Description.Rule) (below : ∀ r ∈ drafts, ∀ bit ∈ r.bits, bit < count)
    (nonempty : ∀ r ∈ drafts, r.bits ≠ [])
    (apart : drafts.Pairwise fun r other => Disjoint r.group other.group) :
    ∃ rules keys, drafts.mapM (fun r => Rule.ofBits r.kind r.bits count) = .ok rules ∧
      keysFor shader stage count rules = .ok keys ∧
      keys.length + 1 = 2 ^ (count - (drafts.map (·.group.card)).sum) *
        (drafts.map fun r => r.kind.choices r.group.card).prod := by
  refine ⟨drafts.map (·.made), admissibleKeys count (drafts.map (·.made)), ?_, ?_, ?_⟩
  · apply Description.Rule.made_all
    intro r member bit here
    exact lt_min (below r member bit here) ((below r member bit here).trans_le few)
  · exact if_neg (Nat.not_lt.mpr few)
  · have inside : ∀ r ∈ drafts, r.group ⊆ Finset.range count := by
      intro r member bit within
      exact Finset.mem_range.mpr (below r member bit (Description.Rule.mem_group.mp within))
    have chosen : ∀ r ∈ drafts, r.group.Nonempty := by
      intro r member
      exact (List.toFinset_nonempty_iff _).mpr (nonempty r member)
    rw [admissibleKeys_length few]
    simp only [List.forall_mem_map, Description.Rule.passes_made]
    rw [card_passing_all drafts _ inside chosen apart, Finset.card_range]

theorem disjoint_rules_count_two :
    let drafts : List Description.Rule := [⟨.onlyOneBitSet, [0, 3]⟩, ⟨.allBitsSet, [4, 1, 4]⟩]
    drafts.Pairwise (fun r other => Disjoint r.group other.group) ∧
      ∃ rules keys, drafts.mapM (fun r => Rule.ofBits r.kind r.bits 5) = .ok rules ∧
        keysFor "Sky" "Pixel" 5 rules = .ok keys ∧ keys.length + 1 = 2 ^ 1 * (3 * 2) := by
  intro drafts
  have apart : drafts.Pairwise fun r other => Disjoint r.group other.group := by decide
  exact ⟨apart,
    disjoint_rules_count "Sky" "Pixel" 5 (by decide) drafts (by decide) (by decide) apart⟩

end ShaderVariants
