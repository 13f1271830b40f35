import ShaderVariants.Compile.Settings
import ShaderVariants.Proofs.Shaders
import ShaderVariants.Text.Words

/-!
The jobs and the selector of one stage of a built shader. Both come from the same defines: the
selector has a bit for each of them, and a job hands to the compiler the defines at the bits of
its key.
-/

namespace ShaderVariants

theorem Stage.define_eq (s : Stage) : s.define = Text.capitals s.name ++ "_SHADER" := by
  cases s <;> rfl

/-- Where all that comes of one thing passes with it or not at all, passing can be decided first. -/
private theorem filter_flatMap_of_uniform {α β : Type} (p : β → Bool) (q : α → Bool)
    (g : α → List β) (uniform : ∀ a, ∀ b ∈ g a, p b = q a) (l : List α) :
    (l.flatMap g).filter p = (l.filter q).flatMap g := by
  induction l with
  | nil => rfl
  | cons a l ih =>
    rw [List.flatMap_cons, List.filter_append, ih, List.filter_cons]
    split
    case isTrue passes =>
      have all : (g a).filter p = g a := by
        rw [List.filter_eq_self]
        intro b member
        rw [uniform a b member, passes]
      rw [all, List.flatMap_cons]
    case isFalse fails =>
      have none : (g a).filter p = [] := by
        rw [List.filter_eq_nil_iff]
        intro b member
        rw [uniform a b member]
        exact fails
      rw [none, List.nil_append]

namespace Shader.Built

variable {shader : Shader} (built : shader.Built) {s : StageVariants} (member : s ∈ shader.stages)
include built member

theorem stage_unique {t : StageVariants} (other : t ∈ shader.stages) (same : t.stage = s.stage) :
    t = s :=
  List.inj_on_of_nodup_map built.distinct other member same

private theorem stages_filter : shader.stages.filter (·.stage = s.stage) = [s] := by
  have only : shader.stages.filter (·.stage = s.stage) = shader.stages.filter (· = s) := by
    apply List.filter_congr
    intro t other
    rw [decide_eq_decide]
    exact ⟨stage_unique built member other, congrArg _⟩
  have once : shader.stages.count s = 1 :=
    List.count_eq_one_of_mem built.distinct.of_map member
  rw [only, List.filter_eq, once]
  rfl

theorem jobs_of_stage :
    (Job.ofShader shader).filter (·.stage = s.stage) = s.variants.map (Job.ofVariant shader s) := by
  have uniform : ∀ t : StageVariants, ∀ j ∈ t.variants.map (Job.ofVariant shader t),
      decide (j.stage = s.stage) = decide (t.stage = s.stage) := by
    intro t j inside
    obtain ⟨v, _, rfl⟩ := List.mem_map.mp inside
    rfl
  rw [Job.ofShader, filter_flatMap_of_uniform _ _ _ uniform, stages_filter built member,
    List.flatMap_singleton]

theorem selector_of_stage :
    (KeyFields.ofShader shader).filter (·.stage = s.stage) =
      [⟨shader.name, shader.id, s.stage, s.keyBits shader.name⟩] := by
  rw [KeyFields.ofShader, List.filter_map]
  exact congrArg _ (stages_filter built member)

theorem job_of_stage {j : Job} (job : j ∈ Job.ofShader shader) (here : j.stage = s.stage) :
    j.key ∈ s.keys ∧ j.defines = Variant.definesOf j.key s.defines := by
  have filtered : j ∈ (Job.ofShader shader).filter (·.stage = s.stage) :=
    List.mem_filter.mpr ⟨job, by simpa using here⟩
  rw [jobs_of_stage built member] at filtered
  obtain ⟨v, variant, rfl⟩ := List.mem_map.mp filtered
  refine ⟨List.mem_map_of_mem variant, ?_⟩
  rw [(built.stages s member).made] at variant
  obtain ⟨key, _, rfl⟩ := List.mem_map.mp variant
  rfl

end Shader.Built

theorem Shader.Built.jobs_ne_nil {shader : Shader} (built : shader.Built)
    (nonempty : shader.stages ≠ []) : Job.ofShader shader ≠ [] := by
  obtain ⟨s, member⟩ := List.exists_mem_of_ne_nil _ nonempty
  have first := (built.stages s member).first
  intro none
  have empty := List.flatMap_eq_nil_iff.mp none s member
  rw [StageVariants.keys, List.map_eq_nil_iff.mp empty] at first
  cases first

/-- Compiler macros, keys and selector of a stage agree. -/
theorem stage_artefacts (name file : String) (plans : List StagePlan) (shader : Shader)
    (success : Shader.build name file plans = .ok shader) (s : StageVariants)
    (member : s ∈ shader.stages) :
    (s.variants.map (·.key.mask)).head? = some 0 ∧
      (s.variants.map (·.key.mask)).Pairwise (· < ·) ∧
      s.defines.length ≤ 32 ∧
      (∀ mask ∈ s.variants.map (·.key.mask), mask < 2 ^ s.defines.length) ∧
      ((Job.ofShader shader).filter (·.stage = s.stage)).map (·.key) = s.variants.map (·.key) ∧
      (∀ j ∈ Job.ofShader shader, j.stage = s.stage →
        j.defines.map some = j.key.mask.bitIndices.map (s.defines[·]?) ∧
        j.defines.length = j.key.mask.bitIndices.length ∧
        (j.defines = [] ↔ j.key = .base) ∧
        ∀ settings : CompilerSettings, j.arguments settings =
          [(settings.sourceDir.join (.ofText j.source)).text,
            "-E", j.entryPoint, "-T", j.profile settings,
            "-Fh", (settings.outputDir.join (.ofText j.outputFile)).text,
            "-Vn", j.byteCode, "-nologo", "-WX", "-I" ++ settings.includeDir.text] ++
          j.defines.map ("-D" ++ ·) ++
          ["-D" ++ (Text.capitals s.stage.name ++ "_SHADER")] ++
          if settings.debugInfo then ["-Zi", "-Qembed_debug", "-Od"] else []) ∧
      ((KeyFields.ofShader shader).filter (·.stage = s.stage)).map (·.fields.length) =
        [s.defines.length] := by
  have built := Shader.build_built name file plans shader success
  have stage := built.stages s member
  have masks : s.variants.map (·.key.mask) = s.keys.map (·.mask) := by
    rw [StageVariants.keys, List.map_map]
    rfl
  refine ⟨?_, ?_, stage.few, ?_, ?_, ?_, ?_⟩
  · rw [masks, List.head?_map, stage.first]
    rfl
  · rw [masks, List.pairwise_map]
    exact stage.ascending
  · rw [masks, List.forall_mem_map]
    exact stage.small
  · rw [built.jobs_of_stage member, List.map_map]
    rfl
  · intro j job here
    obtain ⟨key, defines⟩ := built.job_of_stage member job here
    have bits : j.defines.map some = j.key.mask.bitIndices.map (s.defines[·]?) := by
      rw [defines]
      exact Variant.definesOf_at_bits j.key s.defines stage.few (stage.small _ key)
    have count : j.defines.length = j.key.mask.bitIndices.length := by
      simpa only [List.length_map] using congrArg List.length bits
    refine ⟨bits, count, ?_, ?_⟩
    · rw [defines]
      exact Variant.definesOf_eq_nil_iff j.key s.defines stage.few (stage.small _ key)
    · intro settings
      rw [← here, ← Stage.define_eq, Job.arguments, Job.defineArguments, List.map_append,
        ← List.append_assoc]
      rfl
  · rw [built.selector_of_stage member, List.map_singleton, StageVariants.keyBits,
      List.length_map, List.length_range]

theorem stage_artefacts_two_defines :
    let plans : List StagePlan := [.plain .vertex "VSMain",
      ⟨.pixel, "PSMain", ["FOG", "SHADOW"], [⟨.allBitsSet, 3⟩], fun _ => true⟩]
    let s : StageVariants := ⟨.pixel, "PSMain", ["FOG", "SHADOW"],
      [.make "Sky" .pixel ⟨0⟩ ["FOG", "SHADOW"], .make "Sky" .pixel ⟨3⟩ ["FOG", "SHADOW"]]⟩
    ∃ shader, Shader.build "Sky" "Sky.hlsl" plans = .ok shader ∧ s ∈ shader.stages ∧
      ∀ j ∈ Job.ofShader shader, j.stage = .pixel →
        j.defines.map some = j.key.mask.bitIndices.map (["FOG", "SHADOW"][·]?) := by
  intro plans s
  refine ⟨_, rfl, List.mem_cons_of_mem _ List.mem_cons_self, ?_⟩
  intro j job here
  exact ((stage_artefacts "Sky" "Sky.hlsl" plans _ rfl s
    (List.mem_cons_of_mem _ List.mem_cons_self)).2.2.2.2.2.1 j job here).1

end ShaderVariants
