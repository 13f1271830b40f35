import Mathlib.Data.List.Basic
import Mathlib.Data.List.TakeWhile
import ShaderVariants.Proofs.Jobs

/-!
Names of the bit fields of a key. Each is read off the name of the variant that has its define
alone, and comes without any underscores in front. So a field has the name of its define, which is
the name that the compiler is given, exactly where the define begins with something else.
-/

namespace ShaderVariants

/-! ## The field of a define -/

/-- A define without the underscores in front. -/
def fieldName (define : String) : String :=
  String.ofList (define.toList.dropWhile (· == '_'))

theorem fieldName_eq_self_iff (define : String) :
    fieldName define = define ↔ define.toList.head? ≠ some '_' := by
  rw [← String.toList_inj, fieldName, String.toList_ofList, List.dropWhile_eq_self_iff]
  cases define.toList with
  | nil => simp
  | cons c rest => simp

theorem map_fieldName_eq_self_iff (defines : List String) :
    defines.map fieldName = defines ↔ ∀ d ∈ defines, d.toList.head? ≠ some '_' := by
  have each := List.map_inj_left (l := defines) (f := fieldName) (g := id)
  rw [List.map_id] at each
  simp only [each, id, fieldName_eq_self_iff]

theorem behindShader_eq (shader define : String) :
    behindShader shader s!"{shader}_{define}" = fieldName define := by
  have shape : s!"{shader}_{define}".toList = shader.toList ++ '_' :: define.toList := by
    simp [toString]
  have behind : shader.toList.isPrefixOf? (shader.toList ++ '_' :: define.toList) =
      some ('_' :: define.toList) :=
    List.isPrefixOf?_eq_some_iff_append_eq.mpr rfl
  rw [behindShader, shape, behind, Option.getD_some, List.dropWhile_cons_of_pos rfl, fieldName]

namespace Variant

theorem definesOf_single {defines : List String} (few : defines.length ≤ maxDefines) {bit : Nat}
    (low : bit < defines.length) : definesOf ⟨1 <<< bit⟩ defines = [defines[bit]] := by
  have mask : 1 <<< bit = 2 ^ bit := Nat.one_shiftLeft bit
  have small : 1 <<< bit < 2 ^ defines.length :=
    mask ▸ Nat.pow_lt_pow_right (by decide) low
  have bits := definesOf_at_bits ⟨1 <<< bit⟩ defines few small
  rw [mask, Nat.bitIndices_two_pow, List.map_singleton, List.getElem?_eq_getElem low,
    ← mask] at bits
  exact List.map_injective_iff.mpr (Option.some_injective _) bits

theorem make_single_fullName {defines : List String} (few : defines.length ≤ maxDefines)
    (shader : String) (stage : Stage) {bit : Nat} (low : bit < defines.length) :
    (make shader stage ⟨1 <<< bit⟩ defines).fullName = s!"{shader}_{defines[bit]}" := by
  have further : (Key.mk (1 <<< bit)).isBase = false := by
    rw [Key.isBase, Nat.one_shiftLeft, beq_eq_false_iff_ne]
    exact (Nat.two_pow_pos bit).ne'
  have named : nameOf ⟨1 <<< bit⟩ defines = defines[bit] := by
    rw [nameOf, further, if_neg Bool.false_ne_true, definesOf_single few low]
    rfl
  rw [make, named]

end Variant

theorem StageVariants.keyBits_eq {s : StageVariants} (few : s.defines.length ≤ maxDefines)
    (shader : String) : s.keyBits shader = s.defines.map fieldName := by
  apply List.ext_getElem
  · rw [keyBits, List.length_map, List.length_map, List.length_range]
  · intro bit _ low
    rw [List.length_map] at low
    simp only [keyBits, List.getElem_map, List.getElem_range]
    rw [Variant.make_single_fullName few shader s.stage low, behindShader_eq]

/-! ## Fields and compiler arguments -/

theorem Job.arguments_defines (j : Job) (settings : CompilerSettings) :
    ((j.arguments settings).drop 12).take j.defines.length = j.defines.map ("-D" ++ ·) := by
  have rest : (j.arguments settings).drop 12 = j.defines.map ("-D" ++ ·) ++
      (["-D" ++ j.stage.define] ++ if settings.debugInfo then debugArguments else []) := by
    rw [← List.append_assoc, arguments, defineArguments, List.map_append]
    rfl
  rw [rest, List.take_left' (List.length_map _)]

theorem Shader.Built.fields_at_bits {shader : Shader} (built : shader.Built) {s : StageVariants}
    (member : s ∈ shader.stages) {j : Job} (job : j ∈ Job.ofShader shader)
    (here : j.stage = s.stage) :
    j.key.mask.bitIndices.map ((s.keyBits shader.name)[·]?) =
      (j.defines.map fieldName).map some := by
  have stage := built.stages s member
  obtain ⟨key, defines⟩ := built.job_of_stage member job here
  have bits : j.defines.map some = j.key.mask.bitIndices.map (s.defines[·]?) := by
    rw [defines]
    exact Variant.definesOf_at_bits j.key s.defines stage.few (stage.small _ key)
  have named := congrArg (List.map (Option.map fieldName)) bits
  rw [List.map_map, List.map_map] at named
  rw [StageVariants.keyBits_eq stage.few, List.map_map]
  simp only [List.getElem?_map]
  exact named.symm

/-- The selector of a stage has a field for each define, named like it but for underscores in
front. The fields at the bits of a job are what its compiler is told where none of its defines has
any. -/
theorem selector_fields_named (name file : String) (plans : List StagePlan) (shader : Shader)
    (success : Shader.build name file plans = .ok shader) (s : StageVariants)
    (member : s ∈ shader.stages) :
    let fields := s.keyBits shader.name
    (KeyFields.ofShader shader).filter (·.stage = s.stage) =
        [⟨shader.name, shader.id, s.stage, fields⟩] ∧
      fields = s.defines.map (fun d => String.ofList (d.toList.dropWhile (· == '_'))) ∧
      (fields = s.defines ↔ ∀ d ∈ s.defines, d.toList.head? ≠ some '_') ∧
      ∀ j ∈ Job.ofShader shader, j.stage = s.stage →
        j.key.mask.bitIndices.map (fields[·]?) = (j.defines.map fieldName).map some ∧
        ∀ settings : CompilerSettings,
          ((j.key.mask.bitIndices.filterMap (fields[·]?)).map ("-D" ++ ·) =
              ((j.arguments settings).drop 12).take j.key.mask.bitIndices.length ↔
            ∀ d ∈ j.defines, d.toList.head? ≠ some '_') := by
  have built := Shader.build_built name file plans shader success
  have stage := built.stages s member
  dsimp only
  refine ⟨built.selector_of_stage member, StageVariants.keyBits_eq stage.few shader.name, ?_, ?_⟩
  · rw [StageVariants.keyBits_eq stage.few]
    exact map_fieldName_eq_self_iff s.defines
  · intro j job here
    have bits := built.fields_at_bits member job here
    have count : j.key.mask.bitIndices.length = j.defines.length := by
      simpa only [List.length_map] using congrArg List.length bits
    have fields : j.key.mask.bitIndices.filterMap ((s.keyBits shader.name)[·]?) =
        j.defines.map fieldName := by
      simpa [List.filterMap_map] using congrArg (List.filterMap id) bits
    refine ⟨bits, fun settings => ?_⟩
    rw [fields, count, Job.arguments_defines, ← map_fieldName_eq_self_iff]
    refine ⟨fun same => ?_, fun same => by rw [same]⟩
    exact List.map_injective_iff.mpr (fun a b eq => String.append_right_inj "-D" |>.mp eq) same

theorem selector_fields_named_fog :
    let plans : List StagePlan := [⟨.pixel, "PSMain", ["FOG", "_SHADOW"], [], fun _ => true⟩]
    let s : StageVariants := Shader.stageOf "Sky" ⟨.pixel, "PSMain", ["FOG", "_SHADOW"], [],
      fun _ => true⟩
    ∃ shader, Shader.build "Sky" "Sky.hlsl" plans = .ok shader ∧ s ∈ shader.stages ∧
      s.keyBits "Sky" = ["FOG", "SHADOW"] ∧
      ∀ j ∈ Job.ofShader shader, j.stage = .pixel →
        j.key.mask.bitIndices.map (["FOG", "SHADOW"][·]?) =
          (j.defines.map fieldName).map some := by
  intro plans s
  have fields : s.keyBits "Sky" = ["FOG", "SHADOW"] := by decide
  refine ⟨_, rfl, List.mem_cons_self, fields, fun j job here => ?_⟩
  rw [← fields]
  exact ((selector_fields_named "Sky" "Sky.hlsl" plans _ rfl s List.mem_cons_self).2.2.2
    j job here).1

/-- A define with an underscore in front, and its field without. -/
theorem selector_field_shortened :
    let plan : StagePlan := ⟨.pixel, "PSMain", ["_FOG"], [], fun _ => true⟩
    let s := Shader.stageOf "Sky" plan
    let shader : Shader := ⟨"Sky", "Sky.hlsl", Digest.shortId "Sky", [s]⟩
    let j := Job.ofVariant shader s (.make "Sky" .pixel ⟨1⟩ ["_FOG"])
    Shader.build "Sky" "Sky.hlsl" [plan] = .ok shader ∧ s ∈ shader.stages ∧
      s.keyBits shader.name ≠ s.defines ∧
      j ∈ Job.ofShader shader ∧ j.stage = s.stage ∧ j.key.mask.bitIndices = [0] ∧
      j.defines = ["_FOG"] ∧ (s.keyBits shader.name)[0]? = some "FOG" := by
  intro plan s shader j
  have fields : s.keyBits shader.name = ["FOG"] := by decide
  rw [fields]
  exact ⟨rfl, List.mem_singleton_self s, by decide, List.mem_cons_of_mem _ List.mem_cons_self, rfl,
    Nat.bitIndices_one, rfl, rfl⟩

end ShaderVariants
