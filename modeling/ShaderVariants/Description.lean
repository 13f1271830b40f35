import ShaderVariants.Json.Read
import ShaderVariants.Layout.Basic
import ShaderVariants.Variant.Key
import ShaderVariants.Variant.Stage

/-!
The description of shaders that authors write, and its JSON form: a shader with its entry points
and the defines of its stages, structures that shaders share, and the interfaces through which
shaders are given their data. Lists that are left out are empty.
-/

namespace ShaderVariants.Description
open Json

structure Variable where
  type : String
  name : String
  deriving DecidableEq, Repr

structure Structure where
  name : String
  members : List Variable
  deriving DecidableEq, Repr

structure Buffer where
  register : Nat
  members : List Variable
  deriving DecidableEq, Repr

structure Resource where
  type : String
  elementType : Option String
  register : Nat
  name : String
  deriving DecidableEq, Repr

structure Constant where
  type : String
  name : String
  value : Value
  deriving Repr

structure Interface where
  name : String
  buffer : Buffer
  resources : List Resource
  constants : List Constant
  deriving Repr

structure Rule where
  kind : RuleKind
  bits : List Nat
  deriving DecidableEq, Repr

/-- The defines of a stage and the rules on their combinations. -/
structure Defines where
  names : List String
  rules : List Rule
  deriving DecidableEq, Repr

structure Shader where
  name : String
  file : String
  entryPoints : PerStage (Option String)
  /-- Defines by the name of their stage, in ascending order of these names. -/
  defines : List (String × Defines)
  deriving DecidableEq, Repr

/-- A value as it stands in source code: a string without its quotes, and any other as JSON. -/
def Constant.literal (c : Constant) : String :=
  match c.value with
  | .string s => s
  | value => value.text

/-! ## JSON form -/

def variableForm : Record Variable where
  name := "VariableJson"
  blank := ⟨"", ""⟩
  fields := [
    required "Type" text fun type v => { v with type },
    required "Name" text fun name v => { v with name }]

def structureForm : Record Structure where
  name := "GlobalStructureJson"
  blank := ⟨"", []⟩
  fields := [
    required "Name" text fun name s => { s with name },
    optional "Constants" (list (record variableForm)) fun members s => { s with members }]

def bufferForm : Record Buffer where
  name := "ConstantBufferJson"
  blank := ⟨0, []⟩
  fields := [
    required "Register" word32 fun register b => { b with register },
    optional "Constants" (list (record variableForm)) fun members b => { b with members }]

def resourceForm : Record Resource where
  name := "ResourceJson"
  blank := ⟨"", none, 0, ""⟩
  fields := [
    required "Type" text fun type r => { r with type },
    optional "UAVStructureType" (nullable text) fun elementType r => { r with elementType },
    required "Register" word32 fun register r => { r with register },
    required "Name" text fun name r => { r with name }]

def constantForm : Record Constant where
  name := "ConstJson"
  blank := ⟨"", "", .null⟩
  fields := [
    required "Type" text fun type c => { c with type },
    required "Name" text fun name c => { c with name },
    required "Value" anyValue fun value c => { c with value }]

def interfaceForm : Record Interface where
  name := "ShaderInputsJson"
  blank := ⟨"", ⟨0, []⟩, [], []⟩
  fields := [
    required "Name" text fun name i => { i with name },
    required "ConstantBuffer" (record bufferForm) fun buffer i => { i with buffer },
    optional "Resources" (list (record resourceForm)) fun resources i => { i with resources },
    optional "Consts" (list (record constantForm)) fun constants i => { i with constants }]

def ruleForm : Record Rule where
  name := "RuleJson"
  blank := ⟨.anyBitSet, []⟩
  fields := [
    required "Rule" (choice RuleKind.named) fun kind r => { r with kind },
    required "AffectedBits" (list word32) fun bits r => { r with bits }]

def definesForm : Record Defines where
  name := "StagePermutationsJson"
  blank := ⟨[], []⟩
  fields := [
    optional "Permutations" (list text) fun names d => { d with names },
    optional "Rules" (list (record ruleForm)) fun rules d => { d with rules }]

def entryPointField (stage : Stage) : Json.Field Shader :=
  optional s!"{stage.name}EntryPoint" (nullable text) fun entryPoint s =>
    { s with entryPoints := s.entryPoints.set stage entryPoint }

def shaderForm : Record Shader where
  name := "ShaderJson"
  blank := ⟨"", "", .all none, []⟩
  fields := [
    required "ShaderName" text fun name s => { s with name },
    required "FileName" text fun file s => { s with file }] ++
    Stage.all.map entryPointField ++ [
    optional "ShaderPermutations" (keyed (record definesForm)) fun defines s => { s with defines }]

end Description

/-- What one file describes. -/
structure Description where
  shader : Option Description.Shader
  structures : List Description.Structure
  interfaces : List Description.Interface
  deriving Repr

namespace Description
open Json

def form : Record Description where
  name := "ShaderInputFile"
  blank := ⟨none, [], []⟩
  fields := [
    optional "Shader" (nullable (record shaderForm)) fun shader d => { d with shader },
    optional "GlobalStructures" (list (record structureForm))
      fun structures d => { d with structures },
    optional "ShaderInputs" (list (record interfaceForm)) fun interfaces d => { d with interfaces }]

def ofText (document : String) : Except Json.Fault Description := Json.read (record form) document

end ShaderVariants.Description
