import ShaderVariants.Proofs.Groups
import ShaderVariants.Proofs.Shaders

/-!
What becomes of the description of a shader. It can be wrong in several ways at once, and the first
of three passes that finds something decides: the names of stages with defines, then the bits of
the rules, then the numbers of defines. A description in which none of them finds anything is
accepted.
-/

namespace ShaderVariants

theorem Stage.named?_eq_some {name : String} {stage : Stage} :
    named? name = some stage ↔ stage.name = name := by
  constructor
  · intro found
    simpa using List.find?_some found
  · rintro rfl
    cases stage <;> decide

theorem Stage.named?_eq_none {name : String} :
    named? name = none ↔ ∀ stage : Stage, stage.name ≠ name := by
  rw [Option.eq_none_iff_forall_ne_some]
  simp only [ne_eq, named?_eq_some]

namespace Description.Shader
variable (d : Description.Shader)

def present : List Stage := Stage.all.filter fun stage => (d.entryPoints.get stage).isSome

/-- The defines and the rules of a stage; where nothing is said there are none. -/
def definesAt (stage : Stage) : Defines := (d.defines.lookup stage.name).getD ⟨[], []⟩

/-- The bits of the rules of a stage, each with the number of defines of the stage. -/
def bitsAt (stage : Stage) : List (Nat × Nat) :=
  (d.definesAt stage).rules.flatMap fun r =>
    r.bits.map fun bit => (bit, (d.definesAt stage).names.length)

/-- The bits of all rules of stages with an entry point, in the order in which they stand. -/
def ruleBits : List (Nat × Nat) := d.present.flatMap d.bitsAt

def Places (name : String) : Prop :=
  ∃ stage : Stage, stage.name = name ∧ (d.entryPoints.get stage).isSome

end Description.Shader

namespace Shader
variable (d : Description.Shader)

/-! ## Names -/

def nameFault (name : String) : Option Fault :=
  match Stage.named? name with
  | none => some (.unknownStage name)
  | some stage =>
      if (d.entryPoints.get stage).isSome then none
      else some (.variantsWithoutEntryPoint d.name name)

theorem refusal_checkDefines (names : List String) :
    refusal (checkDefines d names) = names.findSome? (nameFault d) := by
  induction names with
  | nil => rfl
  | cons name names ih =>
    rw [checkDefines, List.findSome?_cons, nameFault, Stage.named]
    cases Stage.named? name with
    | none => rfl
    | some stage =>
      rw [refusal_bind_of_ok rfl]
      dsimp only
      split
      · exact ih
      · rfl

theorem nameFault_of_unknown {name : String} (unknown : ∀ stage : Stage, stage.name ≠ name) :
    nameFault d name = some (.unknownStage name) := by
  rw [nameFault, Stage.named?_eq_none.mpr unknown]

theorem nameFault_of_absent {name : String} {stage : Stage} (named : stage.name = name)
    (absent : d.entryPoints.get stage = none) :
    nameFault d name = some (.variantsWithoutEntryPoint d.name name) := by
  rw [nameFault, Stage.named?_eq_some.mpr named]
  dsimp only
  rw [absent]
  rfl

theorem nameFault_of_places {name : String} (places : d.Places name) : nameFault d name = none := by
  obtain ⟨stage, named, present⟩ := places
  rw [nameFault, Stage.named?_eq_some.mpr named]
  exact if_pos present

/-! ## Bits -/

/-- Whether a bit stands for no define, or is beyond the bits of a key. -/
def beyond (b : Nat × Nat) : Bool := ¬b.1 < min b.2 maxDefines

def bitFault (b : Nat × Nat) : Fault := .ruleBitOutOfRange b.1 b.2

theorem refusal_ofBits (kind : RuleKind) (bits : List Nat) (count : Nat) :
    refusal (Rule.ofBits kind bits count) =
      ((bits.map fun bit => (bit, count)).find? beyond).map bitFault := by
  rw [Rule.ofBits_eq, List.find?_map, Option.map_map]
  change _ = Option.map _ (bits.find? (¬· < min count maxDefines))
  cases bits.find? (¬· < min count maxDefines) <;> rfl

theorem planStage_eq {stage : Stage} {entryPoint : String}
    (present : d.entryPoints.get stage = some entryPoint) :
    planStage d stage =
      (fun rules => some ⟨stage, entryPoint, (d.definesAt stage).names, rules, fun _ => true⟩) <$>
        (d.definesAt stage).rules.mapM fun r =>
          Rule.ofBits r.kind r.bits (d.definesAt stage).names.length := by
  rw [planStage, present, Description.Shader.definesAt]
  dsimp only
  cases d.defines.lookup stage.name <;> rfl

theorem refusal_planStage {stage : Stage} (present : stage ∈ d.present) :
    refusal (planStage d stage) = ((d.bitsAt stage).find? beyond).map bitFault := by
  obtain ⟨entryPoint, found⟩ := Option.isSome_iff_exists.mp (List.mem_filter.mp present).2
  rw [planStage_eq d found, refusal_map, refusal_mapM, Description.Shader.bitsAt,
    List.find?_flatMap, List.map_findSome?]
  simp only [refusal_ofBits, Function.comp_def]

theorem refusal_planStages : refusal (Stage.all.mapM (planStage d)) =
    (d.ruleBits.find? beyond).map bitFault := by
  rw [refusal_mapM, Description.Shader.ruleBits, List.find?_flatMap, List.map_findSome?,
    Description.Shader.present, ← List.head?_filterMap, ← List.head?_filterMap,
    List.filterMap_filter]
  refine congrArg List.head? (List.filterMap_congr fun stage member => ?_)
  split
  case isTrue entry => exact refusal_planStage d (List.mem_filter.mpr ⟨member, entry⟩)
  case isFalse none =>
    rw [planStage, Option.not_isSome_iff_eq_none.mp none]
    rfl

/-! ## Plans -/

/-- What a stage with an entry point is built from: its defines, the rules that are made of its
bits, and no further condition on keys. -/
structure Planned (stage : Stage) (plan : StagePlan) : Prop where
  same : plan.stage = stage
  entry : d.entryPoints.get stage = some plan.entryPoint
  names : plan.defines = (d.definesAt stage).names
  made : (d.definesAt stage).rules.mapM (fun r =>
    Rule.ofBits r.kind r.bits (d.definesAt stage).names.length) = .ok plan.rules
  free : ∀ k, plan.keyFilter k = true

def planAt? (stage : Stage) : Option StagePlan :=
  (d.entryPoints.get stage).map fun entryPoint =>
    ⟨stage, entryPoint, (d.definesAt stage).names, (d.definesAt stage).rules.map (·.made),
      fun _ => true⟩

def plans : List StagePlan := Stage.all.filterMap (planAt? d)

section
variable {d} (below : ∀ b ∈ d.ruleBits, b.1 < min b.2 maxDefines)
include below

theorem rules_made {stage : Stage} (present : stage ∈ d.present) :
    (d.definesAt stage).rules.mapM (fun r =>
      Rule.ofBits r.kind r.bits (d.definesAt stage).names.length) =
        .ok ((d.definesAt stage).rules.map (·.made)) := by
  apply Description.Rule.made_all
  intro r rule bit member
  apply below (bit, (d.definesAt stage).names.length)
  exact List.mem_flatMap.mpr
    ⟨stage, present, List.mem_flatMap.mpr ⟨r, rule, List.mem_map_of_mem member⟩⟩

theorem planned : List.Forall₂ (Planned d) d.present (plans d) := by
  have each (l : List Stage) (inside : ∀ stage ∈ l, stage ∈ Stage.all) :
      List.Forall₂ (Planned d) (l.filter fun stage => (d.entryPoints.get stage).isSome)
        (l.filterMap (planAt? d)) := by
    induction l with
    | nil => exact .nil
    | cons stage l ih =>
      rw [List.forall_mem_cons] at inside
      cases found : d.entryPoints.get stage with
      | none =>
        rw [List.filter_cons_of_neg (by simp [found]),
          List.filterMap_cons_none (by simp [planAt?, found])]
        exact ih inside.2
      | some entryPoint =>
        have present : stage ∈ d.present := List.mem_filter.mpr ⟨inside.1, by rw [found]; rfl⟩
        rw [List.filter_cons_of_pos (by simp [found]),
          List.filterMap_cons_some (by rw [planAt?, found]; rfl)]
        exact .cons ⟨rfl, found, rfl, rules_made below present, fun _ => rfl⟩ (ih inside.2)
  exact each Stage.all fun _ member => member

theorem planStages_eq : Stage.all.mapM (planStage d) = .ok (Stage.all.map (planAt? d)) := by
  apply mapM_eq_ok
  intro stage member
  cases found : d.entryPoints.get stage with
  | none =>
    rw [planStage, planAt?, found]
    rfl
  | some entryPoint =>
    have present : stage ∈ d.present := List.mem_filter.mpr ⟨member, by rw [found]; rfl⟩
    rw [planStage_eq d found, rules_made below present, planAt?, found]
    rfl

end

/-! ## Passes -/

section
variable {d}

theorem ofDescription_misnamed {fault : Fault}
    (found : (d.defines.map (·.1)).findSome? (nameFault d) = some fault) :
    ofDescription d = .error fault := by
  rw [← refusal_checkDefines, refusal_eq_some] at found
  rw [ofDescription, plan, found]
  rfl

variable (placed : ∀ name ∈ d.defines.map (·.1), d.Places name)
include placed

theorem checkDefines_eq : checkDefines d (d.defines.map (·.1)) = .ok () := by
  have fine : refusal (checkDefines d (d.defines.map (·.1))) = none := by
    rw [refusal_checkDefines, List.findSome?_eq_none_iff]
    intro name member
    exact nameFault_of_places d (placed name member)
  obtain ⟨_, success⟩ := refusal_eq_none.mp fine
  exact success

theorem ofDescription_beyond {b : Nat × Nat} (found : d.ruleBits.find? beyond = some b) :
    ofDescription d = .error (bitFault b) := by
  have refused := refusal_planStages d
  rw [found, Option.map_some, refusal_eq_some] at refused
  rw [ofDescription, plan, checkDefines_eq placed, refused]
  rfl

variable (below : ∀ b ∈ d.ruleBits, b.1 < min b.2 maxDefines)
include below

theorem ofDescription_eq_build : ofDescription d = build d.name d.file (plans d) := by
  have all : plan d = .ok (plans d) := by
    rw [plan, checkDefines_eq placed, planStages_eq below]
    change Except.ok ((Stage.all.map (planAt? d)).filterMap fun found => found) = _
    rw [List.filterMap_map]
    rfl
  rw [ofDescription, all]
  rfl

end

/-! ## Stages -/

section
variable {d} {stages : List Stage} {plans : List StagePlan}
variable (planned : List.Forall₂ (Planned d) stages plans)
include planned

theorem planned_stages : plans.map (·.stage) = stages := by
  induction planned with
  | nil => rfl
  | cons first _ ih => rw [List.map_cons, first.same, ih]

theorem planned_mem {plan : StagePlan} (member : plan ∈ plans) :
    ∃ stage ∈ stages, Planned d stage plan := by
  induction planned with
  | nil => cases member
  | cons first _ ih =>
    rcases List.mem_cons.mp member with rfl | later
    · exact ⟨_, List.mem_cons_self, first⟩
    · obtain ⟨stage, inside, here⟩ := ih later
      exact ⟨stage, List.mem_cons_of_mem _ inside, here⟩

/-- The first stage with too many defines decides. -/
theorem planned_refusal : (plans.findSome? fun plan => refusal (buildStage d.name plan)) =
    (stages.find? fun stage => maxDefines < (d.definesAt stage).names.length).map fun stage =>
      .tooManyDefines d.name stage.name (d.definesAt stage).names.length := by
  induction planned with
  | nil => rfl
  | @cons stage plan stages plans first _ ih =>
    rw [List.findSome?_cons, refusal_buildStage, first.names, first.same]
    by_cases many : maxDefines < (d.definesAt stage).names.length
    · rw [if_pos many, List.find?_cons_of_pos (by simpa using many)]
      rfl
    · rw [if_neg many, List.find?_cons_of_neg (by simpa using many)]
      exact ih

end

structure Describes (d : Description.Shader) (s : Shader) : Prop where
  name : s.name = d.name
  file : s.file = d.file
  stages : s.stages.map (·.stage) = d.present
  entries : ∀ v ∈ s.stages, d.entryPoints.get v.stage = some v.entryPoint ∧
    v.defines = (d.definesAt v.stage).names
  variants : ∀ v ∈ s.stages, ∃ keys : List Key,
    v.variants = (.base :: keys).map (Variant.make d.name v.stage · v.defines) ∧
      keys.Pairwise (·.mask < ·.mask) ∧
      ∀ k, k ∈ keys ↔ 0 < k.mask ∧ k.mask < 2 ^ v.defines.length ∧
        ∀ r ∈ (d.definesAt v.stage).rules, r.kind.Passes r.group (bitSet k.mask)
  built : ∃ plans, List.Forall₂ (Planned d) d.present plans ∧ build d.name d.file plans = .ok s

theorem Planned.variants {d : Description.Shader} {stage : Stage} {plan : StagePlan}
    (planned : Planned d stage plan) (present : stage ∈ d.present)
    (below : ∀ b ∈ d.ruleBits, b.1 < min b.2 maxDefines)
    (few : plan.defines.length ≤ maxDefines) : ∃ keys : List Key,
      (stageOf d.name plan).variants =
        (.base :: keys).map (Variant.make d.name plan.stage · plan.defines) ∧
      keys.Pairwise (·.mask < ·.mask) ∧
      ∀ k, k ∈ keys ↔ 0 < k.mask ∧ k.mask < 2 ^ plan.defines.length ∧
        ∀ r ∈ (d.definesAt stage).rules, r.kind.Passes r.group (bitSet k.mask) := by
  have rules : plan.rules = (d.definesAt stage).rules.map (·.made) :=
    Except.ok.inj (planned.made.symm.trans (rules_made below present))
  refine ⟨admissibleKeys plan.defines.length plan.rules, ?_, admissibleKeys_ascending _ _, ?_⟩
  · rw [stageOf, List.filter_eq_self.mpr fun k _ => planned.free k]
  · intro k
    rw [mem_admissibleKeys_iff_passes few, rules]
    simp only [List.forall_mem_map, Description.Rule.passes_made]

/-! ## Stages that are planned -/

section
variable {d : Description.Shader} (placed : ∀ name ∈ d.defines.map (·.1), d.Places name)
variable (below : ∀ b ∈ d.ruleBits, b.1 < min b.2 maxDefines)

theorem distinct_plans (planned : List.Forall₂ (Planned d) d.present (plans d)) :
    ((plans d).map (·.stage)).Nodup := by
  rw [planned_stages planned]
  exact List.Nodup.filter _ (by decide)

include placed below

theorem ofDescription_many {stage : Stage} (found : (d.present.find? fun stage =>
    maxDefines < (d.definesAt stage).names.length) = some stage) :
    ofDescription d =
      .error (.tooManyDefines d.name stage.name (d.definesAt stage).names.length) := by
  have planned := planned below
  rw [ofDescription_eq_build placed below, ← refusal_eq_some,
    refusal_build _ _ _ (distinct_plans planned), planned_refusal planned, found, Option.map_some]

theorem ofDescription_describes
    (few : ∀ stage ∈ d.present, (d.definesAt stage).names.length ≤ maxDefines) :
    ∃ s, ofDescription d = .ok s ∧ Describes d s := by
  have planned := planned below
  have fits : ∀ plan ∈ plans d, plan.defines.length ≤ maxDefines := by
    intro plan member
    obtain ⟨stage, present, here⟩ := planned_mem planned member
    rw [here.names]
    exact few stage present
  have built := build_of_few d.name d.file (plans d) (distinct_plans planned) fits
  refine ⟨_, (ofDescription_eq_build placed below).trans built, rfl, rfl, ?_, ?_, ?_, plans d,
    planned, built⟩
  · rw [← planned_stages planned, List.map_map]
    rfl
  · rw [List.forall_mem_map]
    intro plan member
    obtain ⟨stage, present, here⟩ := planned_mem planned member
    cases here.same
    exact ⟨here.entry, here.names⟩
  · rw [List.forall_mem_map]
    intro plan member
    obtain ⟨stage, present, here⟩ := planned_mem planned member
    cases here.same
    exact here.variants present below (fits plan member)

end

private theorem findSome?_least {names : List String} (ascending : names.Pairwise (· < ·))
    {f : String → Option Fault} {name : String} {fault : Fault} (member : name ∈ names)
    (earlier : ∀ other ∈ names, other < name → f other = none) (here : f name = some fault) :
    names.findSome? f = some fault := by
  obtain ⟨before, after, rfl⟩ := List.append_of_mem member
  have none : before.findSome? f = none := by
    rw [List.findSome?_eq_none_iff]
    intro other inside
    apply earlier other (List.mem_append_left _ inside)
    exact (List.pairwise_append.mp ascending).2.2 other inside name List.mem_cons_self
  rw [List.findSome?_append, none, Option.none_or, List.findSome?_cons, here]

/-- The first of three passes over a description that finds something decides: the least name of
defines that is not that of a stage with an entry point, the first bit of a rule that stands for no
define, the first stage with more defines than a key has bits. Where none finds anything the
description is accepted, with a variant for every key that passes all rules. -/
theorem ofDescription_decides (d : Description.Shader)
    (ascending : (d.defines.map (·.1)).Pairwise (· < ·)) :
    (∀ name ∈ d.defines.map (·.1),
      (∀ other ∈ d.defines.map (·.1), other < name → d.Places other) →
        ((∀ stage : Stage, stage.name ≠ name) → ofDescription d = .error (.unknownStage name)) ∧
        ∀ stage : Stage, stage.name = name → d.entryPoints.get stage = none →
          ofDescription d = .error (.variantsWithoutEntryPoint d.name name)) ∧
      ((∀ name ∈ d.defines.map (·.1), d.Places name) →
        (∀ bit count, d.ruleBits.find? (fun b => ¬b.1 < min b.2 maxDefines) = some (bit, count) →
          ofDescription d = .error (.ruleBitOutOfRange bit count)) ∧
        ((∀ b ∈ d.ruleBits, b.1 < min b.2 maxDefines) →
          (∀ stage, (d.present.find? fun stage =>
              maxDefines < (d.definesAt stage).names.length) = some stage →
            ofDescription d = .error
              (.tooManyDefines d.name stage.name (d.definesAt stage).names.length)) ∧
          ((∀ stage ∈ d.present, (d.definesAt stage).names.length ≤ maxDefines) →
            ∃ s, ofDescription d = .ok s ∧ Describes d s))) := by
  refine ⟨?_, ?_⟩
  · intro name member earlier
    have first {fault : Fault} (here : nameFault d name = some fault) :
        ofDescription d = .error fault := by
      apply ofDescription_misnamed
      apply findSome?_least ascending member _ here
      intro other inside less
      exact nameFault_of_places d (earlier other inside less)
    refine ⟨?_, ?_⟩
    · intro unknown
      exact first (nameFault_of_unknown d unknown)
    · intro stage named absent
      exact first (nameFault_of_absent d named absent)
  · intro placed
    refine ⟨?_, ?_⟩
    · intro bit count found
      exact ofDescription_beyond placed found
    · intro below
      refine ⟨?_, ?_⟩
      · intro stage found
        exact ofDescription_many placed below found
      · intro few
        exact ofDescription_describes placed below few

/-- A bit beyond the defines of a later stage is reported before an earlier stage with too many. -/
theorem ofDescription_decides_bit :
    let d : Description.Shader := ⟨"Sky", "Sky.hlsl",
      ⟨some "VSMain", none, none, none, some "PSMain", none⟩,
      [("Pixel", ⟨["FOG", "SHADOW"], [⟨.allBitsSet, [1, 5]⟩]⟩),
        ("Vertex", ⟨List.replicate 33 "SKIN", []⟩)]⟩
    (d.defines.map (·.1)).Pairwise (· < ·) ∧ (∀ name ∈ d.defines.map (·.1), d.Places name) ∧
      ofDescription d = .error (.ruleBitOutOfRange 5 2) := by
  intro d
  have ascending : (d.defines.map (·.1)).Pairwise (· < ·) := by decide
  have placed : ∀ name ∈ d.defines.map (·.1), d.Places name := by
    intro name member
    rcases List.mem_cons.mp member with rfl | later
    · exact ⟨.pixel, rfl, rfl⟩
    · cases List.mem_singleton.mp later
      exact ⟨.vertex, rfl, rfl⟩
  exact ⟨ascending, placed, ((ofDescription_decides d ascending).2 placed).1 5 2 rfl⟩

end Shader
end ShaderVariants
