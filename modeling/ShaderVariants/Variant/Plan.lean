import ShaderVariants.Description
import ShaderVariants.Variant.Shader

/-!
From the description of a shader to the plan of its stages. Defines must belong to a stage with
an entry point; a stage with an entry point and no defines has the base variant alone.
-/

namespace ShaderVariants.Shader

/-- Refuses the first stage with defines, in the order of the names, that has no entry point. -/
def checkDefines (d : Description.Shader) : (names : List String) → Except Fault Unit
  | [] => .ok ()
  | name :: names => do
      let stage ← Stage.named name
      if (d.entryPoints.get stage).isSome then checkDefines d names
      else .error (.variantsWithoutEntryPoint d.name name)

/-- The plan of a stage, if it has an entry point. -/
def planStage (d : Description.Shader) (stage : Stage) : Except Fault (Option StagePlan) :=
  match d.entryPoints.get stage with
  | none => .ok none
  | some entryPoint =>
      match d.defines.lookup stage.name with
      | none => .ok (some (.plain stage entryPoint))
      | some defines => do
          let rules ← defines.rules.mapM fun r => Rule.ofBits r.kind r.bits defines.names.length
          pure (some ⟨stage, entryPoint, defines.names, rules, fun _ => true⟩)

def plan (d : Description.Shader) : Except Fault (List StagePlan) := do
  checkDefines d (d.defines.map (·.1))
  let plans ← Stage.all.mapM (planStage d)
  pure plans.reduceOption

def ofDescription (d : Description.Shader) : Except Fault Shader := do
  let plans ← plan d
  build d.name d.file plans

/-- The log lines of the stages that are built. -/
def descriptionLines (d : Description.Shader) : List LogLine :=
  match plan d with
  | .ok plans => buildLines d.name plans
  | .error _ => []

end ShaderVariants.Shader
