import Mathlib.Data.Nat.Bitwise
import ShaderVariants.Preset
import ShaderVariants.Proofs.Groups
import ShaderVariants.Proofs.Shaders

/-!
"One of" as a filter of keys and as a rule. A filter counts the masks that a key hits, a rule the
bits that a key shares with all masks together. Where every mask is one bit of its own the two
numbers are the same, so they only differ in keys that hit no mask: the filter refuses these, and
the rule does not speak of them. The base variant is subject to neither.
-/

namespace ShaderVariants

/-- A rule at the end takes its share of the keys that are admissible without it. -/
theorem admissibleKeys_concat (count : Nat) (rules : List Rule) (r : Rule) :
    admissibleKeys count (rules ++ [r]) =
      (admissibleKeys count rules).filter fun k => !r.appliesTo k || r.allows k := by
  rw [admissibleKeys, admissibleKeys, List.filter_filter]
  apply List.filter_congr
  intro k _
  rw [Rule.admits, Rule.admits, List.all_append, Bool.and_comm]
  simp only [List.all_cons, List.all_nil, Bool.and_true]

/-! ## Masks of one bit -/

private theorem hits_eq (mask bit : Nat) : (mask &&& 2 ^ bit != 0) = mask.testBit bit := by
  rw [Nat.and_two_pow]
  cases mask.testBit bit <;> simp

def unionOf (masks : List Nat) : Nat := masks.foldl (· ||| ·) 0

private theorem bitSet_union (bits : List Nat) :
    bitSet (unionOf (bits.map (2 ^ ·))) = bits.toFinset := by
  ext bit
  rw [unionOf, mem_bitSet_foldl, bitSet_zero, List.mem_toFinset]
  simp only [List.mem_map, Finset.notMem_empty, false_or, exists_exists_and_eq_and, bitSet_two_pow,
    Finset.mem_singleton, exists_eq_right']

section
variable {masks : List Nat} (single : ∀ mask ∈ masks, ∃ bit, mask = 2 ^ bit)
include single

private theorem exists_bits : ∃ bits : List Nat, masks = bits.map (2 ^ ·) := by
  refine ⟨masks.map Nat.log2, ?_⟩
  rw [List.map_map, eq_comm]
  conv_rhs => rw [← List.map_id masks]
  apply List.map_congr_left
  intro mask member
  obtain ⟨bit, rfl⟩ := single mask member
  rw [Function.comp_apply, Nat.log2_two_pow, id]

/-- A key hits one of the masks exactly if it hits any, and a rule for one bit of all of them
together lets it pass. -/
theorem Key.onlyOneOf_iff (distinct : masks.Nodup) (k : Key) :
    k.onlyOneOf masks = true ↔
      RuleKind.onlyOneBitSet.Passes (bitSet (unionOf masks)) (bitSet k.mask) ∧
        (masks.any fun mask => k.mask &&& mask != 0) = true := by
  obtain ⟨bits, rfl⟩ := exists_bits single
  let shared := bitSet k.mask ∩ bits.toFinset
  have count : (bits.map (2 ^ ·)).countP (fun mask => k.mask &&& mask != 0) = shared.card := by
    have filtered : (bits.filter k.mask.testBit).toFinset = shared := by
      ext bit
      simp [shared, and_comm]
    rw [List.countP_map, ← filtered, List.toFinset_card_of_nodup (distinct.of_map.filter _),
      List.countP_eq_length_filter]
    simp only [Function.comp_def, hits_eq]
  have any : ((bits.map (2 ^ ·)).any fun mask => k.mask &&& mask != 0) = true ↔
      0 < shared.card := by
    rw [List.any_eq_true, ← count, List.countP_pos_iff]
  rw [onlyOneOf, count, beq_iff_eq, any, bitSet_union, RuleKind.Passes, RuleKind.Allows,
    ← Finset.card_eq_zero]
  change shared.card = 1 ↔ (shared.card = 0 ∨ shared.card = 1) ∧ 0 < shared.card
  omega

/-- Among admissible keys the filter leaves those that a further rule leaves and that hit a mask. -/
theorem filter_onlyOneOf (distinct : masks.Nodup) {count : Nat} (few : count ≤ maxDefines)
    (rules : List Rule) :
    (admissibleKeys count rules).filter (·.onlyOneOf masks) =
      (admissibleKeys count (rules ++ [⟨.onlyOneBitSet, unionOf masks⟩])).filter fun k =>
        masks.any fun mask => k.mask &&& mask != 0 := by
  rw [admissibleKeys_concat, List.filter_filter]
  apply List.filter_congr
  intro k member
  have small : k.mask < 2 ^ maxDefines :=
    ((mem_admissibleKeys count rules k).mp member).2.1.trans_le
      (Nat.pow_le_pow_right (by decide) few)
  rw [Bool.eq_iff_iff, Bool.and_eq_true, k.onlyOneOf_iff single distinct,
    Rule.admits_iff_permits _ k small, Rule.permits_iff_passes, and_comm]

end

/-! ## Stages -/

namespace Shader

/-- A stage with a filter for exactly one of some single bits has the further variants of the same
stage with a rule for one of them in its place, less those whose keys have none of the bits; names
and defines are the same, and so are all other stages. -/
theorem one_of_filter_as_rule (name file : String) (before after : List StagePlan) (stage : Stage)
    (entryPoint : String) (defines : List String) (rules : List Rule) (masks : List Nat)
    (single : ∀ mask ∈ masks, ∃ bit, mask = 2 ^ bit) (distinct : masks.Nodup)
    (fits : defines.length ≤ maxDefines)
    (few : ∀ plan ∈ before ++ after, plan.defines.length ≤ maxDefines)
    (apart : (before.map (·.stage) ++ stage :: after.map (·.stage)).Nodup) :
    let filtered : StagePlan := ⟨stage, entryPoint, defines, rules, (·.onlyOneOf masks)⟩
    let ruled : StagePlan := ⟨stage, entryPoint, defines,
      rules ++ [⟨.onlyOneBitSet, unionOf masks⟩], fun _ => true⟩
    ∃ early late wanted all, early.length = before.length ∧
      build name file (before ++ filtered :: after) = .ok ⟨name, file, Digest.shortId name,
        early ++ ⟨stage, entryPoint, defines, .make name stage .base defines :: wanted⟩ :: late⟩ ∧
      build name file (before ++ ruled :: after) = .ok ⟨name, file, Digest.shortId name,
        early ++ ⟨stage, entryPoint, defines, .make name stage .base defines :: all⟩ :: late⟩ ∧
      (∀ v ∈ all, v.key ≠ .base) ∧
      wanted = all.filter fun v => masks.any fun mask => v.key.mask &&& mask != 0 := by
  intro filtered ruled
  have placed (plan : StagePlan) (same : plan.stage = stage) (fit : plan.defines = defines) :
      build name file (before ++ plan :: after) = .ok ⟨name, file, Digest.shortId name,
        before.map (stageOf name) ++ stageOf name plan :: after.map (stageOf name)⟩ := by
    rw [build_of_few, List.map_append, List.map_cons]
    · rw [List.map_append, List.map_cons, same]
      exact apart
    · intro other member
      rcases List.mem_append.mp member with early | later
      · exact few other (List.mem_append_left _ early)
      · rcases List.mem_cons.mp later with rfl | late
        · rw [fit]
          exact fits
        · exact few other (List.mem_append_right _ late)
  let wanted := ((admissibleKeys defines.length rules).filter (·.onlyOneOf masks)).map
    (Variant.make name stage · defines)
  let all := (admissibleKeys defines.length ruled.rules).map (Variant.make name stage · defines)
  refine ⟨before.map (stageOf name), after.map (stageOf name), wanted, all, List.length_map _,
    placed filtered rfl rfl, ?_, ?_, ?_⟩
  · have unfiltered : (admissibleKeys defines.length ruled.rules).filter ruled.keyFilter =
        admissibleKeys defines.length ruled.rules := List.filter_true _
    rw [placed ruled rfl rfl, stageOf, unfiltered]
    rfl
  · intro v member base
    obtain ⟨k, admissible, rfl⟩ := List.mem_map.mp member
    have positive := ((mem_admissibleKeys _ _ k).mp admissible).1
    rw [show k = .base from base, Key.base] at positive
    exact positive.false
  · rw [List.filter_map]
    exact congrArg _ (filter_onlyOneOf single distinct fits rules)

theorem one_of_filter_as_rule_lighting :
    let defines := Preset.lightingVertex.defines
    let ruled : StagePlan := ⟨.vertex, "VSMain", defines, [⟨.onlyOneBitSet, 7⟩], fun _ => true⟩
    (∀ mask ∈ Preset.vertexFormats, ∃ bit, mask = 2 ^ bit) ∧
      ∃ late wanted all, build "Sky" "Sky.hlsl" [Preset.lightingVertex, Preset.lightingPixel] =
          .ok ⟨"Sky", "Sky.hlsl", Digest.shortId "Sky",
            ⟨.vertex, "VSMain", defines, .make "Sky" .vertex .base defines :: wanted⟩ :: late⟩ ∧
        build "Sky" "Sky.hlsl" [ruled, Preset.lightingPixel] =
          .ok ⟨"Sky", "Sky.hlsl", Digest.shortId "Sky",
            ⟨.vertex, "VSMain", defines, .make "Sky" .vertex .base defines :: all⟩ :: late⟩ ∧
        wanted = all.filter (fun v : Variant =>
          Preset.vertexFormats.any fun mask => v.key.mask &&& mask != 0) := by
  intro defines ruled
  have single : ∀ mask ∈ Preset.vertexFormats, ∃ bit, mask = 2 ^ bit := by
    intro mask member
    simp only [Preset.vertexFormats, List.mem_cons, List.not_mem_nil, or_false] at member
    rcases member with rfl | rfl | rfl
    exacts [⟨0, rfl⟩, ⟨1, rfl⟩, ⟨2, rfl⟩]
  obtain ⟨early, late, wanted, all, none, filtered, whole, _, same⟩ :=
    one_of_filter_as_rule "Sky" "Sky.hlsl" [] [Preset.lightingPixel] .vertex "VSMain" defines []
      Preset.vertexFormats single (by decide) (by decide) (by decide) (by decide)
  cases List.length_eq_zero_iff.mp none
  exact ⟨single, late, wanted, all, filtered, whole, same⟩

end Shader
end ShaderVariants
