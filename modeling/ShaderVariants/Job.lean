import ShaderVariants.Variant.Shader

/-!
The work that a shader gives: one compile job for every variant of every stage, and for every
stage the bit fields that select a variant in C++. A job turns into the arguments of the compiler
once the settings are known.
-/

namespace ShaderVariants

structure Job where
  shader : String
  shaderId : Nat
  stage : Stage
  key : Key
  entryPoint : String
  /-- The source, as seen from the directory of sources. -/
  source : String
  variant : String
  outputFile : String
  byteCode : String
  defines : List String
  deriving DecidableEq, Repr

namespace Job

def ofVariant (shader : Shader) (stage : StageVariants) (v : Variant) : Job where
  shader := shader.name
  shaderId := shader.id
  stage := stage.stage
  key := v.key
  entryPoint := stage.entryPoint
  source := shader.file
  variant := v.fullName
  outputFile := v.outputFile
  byteCode := v.byteCode
  defines := v.defines

/-- One job for each variant of each stage, in their order. -/
def ofShader (shader : Shader) : List Job :=
  shader.stages.flatMap fun stage => stage.variants.map (ofVariant shader stage)

def description (j : Job) : String := s!"{j.stage.letters} {j.variant}"

end Job

/-- The selector of a stage's variants: a key with one bit field for each define. -/
structure KeyFields where
  shader : String
  shaderId : Nat
  stage : Stage
  fields : List String
  deriving DecidableEq, Repr

namespace KeyFields

def ofShader (shader : Shader) : List KeyFields :=
  shader.stages.map fun s => ⟨shader.name, shader.id, s.stage, s.keyBits shader.name⟩

def structName (k : KeyFields) : String := s!"{k.shader}{k.stage.name}PermutationKey"

/-- A shader id with all its eight digits. -/
def idText (id : Nat) : String :=
  let digits := Nat.toDigits 16 id
  "0x" ++ String.ofList (List.replicate (8 - digits.length) '0' ++ digits)

end KeyFields
end ShaderVariants
