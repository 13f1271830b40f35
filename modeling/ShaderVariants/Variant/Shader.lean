import ShaderVariants.Digest.Blake3
import ShaderVariants.Log
import ShaderVariants.Variant.Basic

/-!
Shaders and their variants. A shader is planned as a list of stages, each with its defines and
what keys it admits, and built into the variants of every stage: the base variant first, then one
for every admissible key in ascending order. A shader has each stage at most once.
-/

namespace ShaderVariants

/-- What a stage is built from. -/
structure StagePlan where
  stage : Stage
  entryPoint : String
  defines : List String
  rules : List Rule
  /-- What a key must satisfy besides the rules. -/
  keyFilter : Key → Bool

/-- A stage without defines. -/
def StagePlan.plain (stage : Stage) (entryPoint : String) : StagePlan :=
  ⟨stage, entryPoint, [], [], fun _ => true⟩

structure StageVariants where
  stage : Stage
  entryPoint : String
  /-- The defines by the bit that stands for them. -/
  defines : List String
  variants : List Variant
  deriving DecidableEq, Repr

/-- What follows the name of the shader and the underscores behind it in a name of a variant. -/
def behindShader (shader variant : String) : String :=
  let rest := (shader.toList.isPrefixOf? variant.toList).getD variant.toList
  String.ofList (rest.dropWhile (· == '_'))

/-- The bit fields of a key, each named like the variant that has its define alone. -/
def StageVariants.keyBits (s : StageVariants) (shader : String) : List String :=
  (List.range s.defines.length).map fun bit =>
    behindShader shader (Variant.make shader s.stage ⟨1 <<< bit⟩ s.defines).fullName

structure Shader where
  name : String
  /-- The source, as seen from the directory of sources. -/
  file : String
  id : Nat
  stages : List StageVariants
  deriving DecidableEq, Repr

namespace Shader

def buildStage (shader : String) (plan : StagePlan) : Except Fault StageVariants := do
  let keys ← keysFor shader plan.stage.name plan.defines.length plan.rules
  let keys := Key.base :: keys.filter plan.keyFilter
  pure {
    stage := plan.stage
    entryPoint := plan.entryPoint
    defines := plan.defines
    variants := keys.map (Variant.make shader plan.stage · plan.defines) }

/-- The stages up to the first that cannot be built, and why that one cannot. -/
def buildStages (shader : String) (built : List StageVariants) :
    List StagePlan → List StageVariants × Option Fault
  | [] => (built, none)
  | plan :: plans =>
      if built.any (·.stage == plan.stage) then
        (built, some (.duplicateName .stage s!"{shader} {plan.stage.name}"))
      else
        match buildStage shader plan with
        | .ok stage => buildStages shader (built ++ [stage]) plans
        | .error fault => (built, some fault)

def build (name file : String) (plans : List StagePlan) : Except Fault Shader :=
  match buildStages name [] plans with
  | (_, some fault) => .error fault
  | (stages, none) => .ok { name, file, id := Digest.shortId name, stages }

def stageLine (shader : String) (s : StageVariants) : LogLine :=
  ⟨.info, .shader, s!"{shader} {s.stage.name}: {s.defines.length} defines, " ++
    s!"{s.variants.length} permutations"⟩

/-- One line for each stage that is built, also when a later one cannot be. -/
def buildLines (name : String) (plans : List StagePlan) : List LogLine :=
  (buildStages name [] plans).1.map (stageLine name)

def hasStage (s : Shader) (stage : Stage) : Bool := s.stages.any (·.stage == stage)

def variantCount (s : Shader) : Nat :=
  s.stages.foldr (fun stage count => stage.variants.length + count) 0

end Shader
end ShaderVariants
