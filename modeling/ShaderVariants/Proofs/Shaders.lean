import ShaderVariants.Proofs.Keys
import ShaderVariants.Proofs.Refusals
import ShaderVariants.Variant.Plan

/-!
What is true of every shader that is built: each stage comes once, and has the base variant first
and then one variant for each of its further keys in ascending order, over no more defines than a
key has bits. A shader from a description is built from its plan.
-/

namespace ShaderVariants

def StageVariants.keys (s : StageVariants) : List Key := s.variants.map (·.key)

structure StageVariants.Built (shader : String) (s : StageVariants) : Prop where
  few : s.defines.length ≤ maxDefines
  made : s.variants = s.keys.map (Variant.make shader s.stage · s.defines)
  first : s.keys.head? = some .base
  ascending : s.keys.Pairwise (·.mask < ·.mask)
  small : ∀ key ∈ s.keys, key.mask < 2 ^ s.defines.length

namespace Shader

structure Built (s : Shader) : Prop where
  distinct : (s.stages.map (·.stage)).Nodup
  stages : ∀ stage ∈ s.stages, stage.Built s.name

theorem keys_of_made (shader : String) (stage : Stage) (keys : List Key)
    (defines : List String) :
    (keys.map (Variant.make shader stage · defines)).map (·.key) = keys := by
  rw [List.map_map]
  exact List.map_id keys

/-- A stage is built exactly where a key has bits for all its defines. -/
theorem buildStage_eq (shader : String) (plan : StagePlan) :
    buildStage shader plan =
      if maxDefines < plan.defines.length then
        .error (.tooManyDefines shader plan.stage.name plan.defines.length)
      else
        .ok ⟨plan.stage, plan.entryPoint, plan.defines,
          (Key.base :: (admissibleKeys plan.defines.length plan.rules).filter plan.keyFilter).map
            (Variant.make shader plan.stage · plan.defines)⟩ := by
  unfold buildStage keysFor
  split <;> rfl

theorem buildStage_stage {shader : String} {plan : StagePlan} {stage : StageVariants}
    (success : buildStage shader plan = .ok stage) : stage.stage = plan.stage := by
  rw [buildStage_eq] at success
  split at success <;> cases success
  rfl

theorem buildStage_built (shader : String) (plan : StagePlan) (stage : StageVariants)
    (success : buildStage shader plan = .ok stage) : stage.Built shader := by
  rw [buildStage_eq] at success
  split at success
  · cases success
  case isFalse few =>
    cases success
    have found (key : Key)
        (member : key ∈ (admissibleKeys plan.defines.length plan.rules).filter plan.keyFilter) :
        0 < key.mask ∧ key.mask < 2 ^ plan.defines.length := by
      have admissible := (mem_admissibleKeys _ _ _).mp (List.mem_filter.mp member).1
      exact ⟨admissible.1, admissible.2.1⟩
    refine ⟨Nat.le_of_not_lt few, ?_, ?_, ?_, ?_⟩
    · simp only [StageVariants.keys, keys_of_made]
    · simp only [StageVariants.keys, keys_of_made, List.head?_cons]
    · simp only [StageVariants.keys, keys_of_made, List.pairwise_cons]
      exact ⟨fun key member => (found key member).1, (admissibleKeys_ascending _ _).filter _⟩
    · simp only [StageVariants.keys, keys_of_made]
      intro key member
      rcases List.mem_cons.mp member with same | further
      · subst same
        exact Nat.two_pow_pos _
      · exact (found key further).2

theorem buildStages_built (shader : String) (plans : List StagePlan)
    (before stages : List StageVariants)
    (success : buildStages shader before plans = (stages, none))
    (distinct : (before.map (·.stage)).Nodup) (built : ∀ stage ∈ before, stage.Built shader) :
    (stages.map (·.stage)).Nodup ∧ ∀ stage ∈ stages, stage.Built shader := by
  induction plans generalizing before with
  | nil =>
    cases success
    exact ⟨distinct, built⟩
  | cons plan plans ih =>
    rw [buildStages] at success
    split at success
    · cases success
    case isFalse unused =>
      split at success
      case h_2 => cases success
      case h_1 stage made =>
        have kept := buildStage_stage made
        apply ih _ success
        · rw [List.map_append, List.nodup_append]
          refine ⟨distinct, by simp, ?_⟩
          intro one inside other here
          simp only [List.map_cons, List.map_nil, List.mem_singleton] at here
          obtain ⟨earlier, member, rfl⟩ := List.mem_map.mp inside
          rw [here, kept]
          intro same
          apply unused
          rw [List.any_eq_true]
          exact ⟨earlier, member, by simpa using same⟩
        · intro one member
          rcases List.mem_append.mp member with earlier | last
          · exact built one earlier
          · cases List.mem_singleton.mp last
            exact buildStage_built shader plan stage made

theorem build_built (name file : String) (plans : List StagePlan) (shader : Shader)
    (success : build name file plans = .ok shader) : shader.Built := by
  unfold build at success
  split at success
  · cases success
  case h_2 stages made =>
    cases success
    have whole := buildStages_built name plans [] stages made List.nodup_nil (by simp)
    exact ⟨whole.1, whole.2⟩

/-- Where no stage comes twice, stages are built one by one. -/
theorem buildStages_of_distinct (shader : String) (plans : List StagePlan)
    (before : List StageVariants)
    (distinct : (before.map (·.stage) ++ plans.map (·.stage)).Nodup) :
    (buildStages shader before plans).2 = refusal (plans.mapM (buildStage shader)) ∧
      ∀ stages, plans.mapM (buildStage shader) = .ok stages →
        (buildStages shader before plans).1 = before ++ stages := by
  induction plans generalizing before with
  | nil =>
    refine ⟨rfl, ?_⟩
    rintro stages ⟨⟩
    exact (List.append_nil before).symm
  | cons plan plans ih =>
    have unused : before.any (·.stage == plan.stage) = false := by
      rw [List.any_eq_false]
      intro earlier member same
      have inside : plan.stage ∈ before.map (·.stage) :=
        List.mem_map.mpr ⟨earlier, member, by simpa using same⟩
      exact (List.nodup_append.mp distinct).2.2 _ inside _ (by simp) rfl
    rw [buildStages, unused, if_neg Bool.false_ne_true, List.mapM_cons]
    cases built : buildStage shader plan with
    | error fault => exact ⟨rfl, nofun⟩
    | ok stage =>
      have moved : (before ++ [stage]).map (·.stage) ++ plans.map (·.stage) =
          before.map (·.stage) ++ (plan :: plans).map (·.stage) := by
        simp [buildStage_stage built]
      obtain ⟨fault, stages⟩ := ih (before ++ [stage]) (moved ▸ distinct)
      refine ⟨?_, ?_⟩
      · rw [refusal_bind_of_ok rfl]
        exact fault.trans (refusal_map (stage :: ·) _).symm
      · intro all made
        simp only [bind_eq_ok] at made
        obtain ⟨_, same, later, rest, whole⟩ := made
        cases same
        cases whole
        exact (stages later rest).trans (List.append_assoc before [stage] later)

/-- The stage that is built from a plan with no more defines than a key has bits. -/
def stageOf (shader : String) (plan : StagePlan) : StageVariants where
  stage := plan.stage
  entryPoint := plan.entryPoint
  defines := plan.defines
  variants :=
    (Key.base :: (admissibleKeys plan.defines.length plan.rules).filter plan.keyFilter).map
      (Variant.make shader plan.stage · plan.defines)

theorem refusal_buildStage (shader : String) (plan : StagePlan) :
    refusal (buildStage shader plan) =
      if maxDefines < plan.defines.length then
        some (.tooManyDefines shader plan.stage.name plan.defines.length)
      else none := by
  rw [buildStage_eq]
  split <;> rfl

section
variable (name file : String) (plans : List StagePlan) (distinct : (plans.map (·.stage)).Nodup)
include distinct

/-- A shader is refused for the first of its stages that is. -/
theorem refusal_build : refusal (build name file plans) =
    plans.findSome? fun plan => refusal (buildStage name plan) := by
  rw [← refusal_mapM, ← (buildStages_of_distinct name plans [] distinct).1, build]
  obtain ⟨stages, fault⟩ := buildStages name [] plans
  cases fault <;> rfl

theorem build_of_few (few : ∀ plan ∈ plans, plan.defines.length ≤ maxDefines) :
    build name file plans =
      .ok ⟨name, file, Digest.shortId name, plans.map (stageOf name)⟩ := by
  have made : plans.mapM (buildStage name) = .ok (plans.map (stageOf name)) := by
    apply mapM_eq_ok
    intro plan member
    rw [buildStage_eq, if_neg (Nat.not_lt.mpr (few plan member)), stageOf]
  obtain ⟨fault, stages⟩ := buildStages_of_distinct name plans [] distinct
  have whole : buildStages name [] plans = (plans.map (stageOf name), none) :=
    Prod.ext (stages _ made) (by rw [fault, made]; rfl)
  rw [build, whole]

theorem build_of_fit (few : ∀ plan ∈ plans, plan.defines.length ≤ maxDefines) :
    ∃ shader, build name file plans = .ok shader ∧ shader.name = name ∧
      shader.stages.map (·.stage) = plans.map (·.stage) :=
  ⟨_, build_of_few name file plans distinct few, rfl, List.map_map⟩

end

theorem ofDescription_built (d : Description.Shader) (shader : Shader)
    (success : ofDescription d = .ok shader) : shader.Built := by
  unfold ofDescription at success
  cases planned : plan d with
  | error fault =>
    rw [planned] at success
    cases success
  | ok plans =>
    rw [planned] at success
    exact build_built d.name d.file plans shader success

def Genuine (s : Shader) : Prop :=
  (∃ name file plans, build name file plans = .ok s) ∨ ∃ d, ofDescription d = .ok s

theorem Genuine.built {s : Shader} (genuine : s.Genuine) : s.Built := by
  rcases genuine with ⟨name, file, plans, success⟩ | ⟨d, success⟩
  · exact build_built name file plans s success
  · exact ofDescription_built d s success

end Shader
end ShaderVariants
