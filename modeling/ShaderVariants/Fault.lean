import ShaderVariants.Json.Fault
import ShaderVariants.OsError

/-!
Why a description, a shader or a file is refused. Each cause is a constructor with what it is
about, and `Fault.message` has all the wording.
-/

namespace ShaderVariants

/-- What a name that is taken was meant for; `shared` is a shared structure. -/
inductive NameKind where
  | shared
  | interface
  | shader
  | stage
  deriving DecidableEq, Repr

def NameKind.words : NameKind → String
  | .shared => "structure"
  | .interface => "shader inputs"
  | .shader => "shader"
  | .stage => "stage"

inductive Fault where
  | unknownType (name : String)
  | unknownResourceType (name : String)
  | unknownStage (name : String)
  /-- More defines than a key has bits. -/
  | tooManyDefines (shader stage : String) (count : Nat)
  | ruleBitOutOfRange (bit defineCount : Nat)
  /-- A byte size that no number of four-byte fields can fill up. -/
  | unalignedSize (name : String) (size : Nat)
  /-- A structured resource without a type for its elements. -/
  | missingElementType (resource : String)
  | variantsWithoutEntryPoint (shader stage : String)
  | duplicateName (kind : NameKind) (name : String)
  | malformed (path : String) (cause : Json.Fault)
  | file (path : String) (cause : OsError)
  | launch (program : String) (cause : OsError)
  /-- A sum of sizes that no machine word holds. The program itself stops there. -/
  | overflow
  deriving DecidableEq, Repr

/-- The bits of a key, and so the most defines a stage can have. -/
def maxDefines : Nat := 32

def Fault.message : Fault → String
  | .unknownType name => s!"unknown shader type: '{name}'"
  | .unknownResourceType name => s!"unknown resource type: '{name}'"
  | .unknownStage name => s!"unknown shader stage: '{name}'"
  | .tooManyDefines shader stage count =>
      s!"shader '{shader}' declares {count} permutation defines for {stage}, " ++
        s!"at most {maxDefines} are supported"
  | .ruleBitOutOfRange bit defineCount =>
      s!"permutation rule affects bit {bit}, but only {defineCount} defines exist"
  | .unalignedSize name size =>
      s!"'{name}' has a size of {size} bytes which cannot be padded to 16 with uints"
  | .missingElementType resource =>
      s!"structured resource '{resource}' is missing its UAVStructureType"
  | .variantsWithoutEntryPoint shader stage =>
      s!"shader '{shader}' has permutations for {stage} but no entry point"
  | .duplicateName kind name => s!"duplicate {kind.words} name: '{name}'"
  | .malformed path cause => s!"failed to parse '{path}': {cause.message}"
  | .file path cause => s!"io error on '{path}': {cause.message}"
  | .launch program cause => s!"failed to launch '{program}': {cause.message}"
  | .overflow => "attempt to add with overflow"

/-- What lies behind a fault, where that is an error of its own. -/
def Fault.source : Fault → Option String
  | .malformed _ cause => some cause.message
  | .file _ cause => some cause.message
  | .launch _ cause => some cause.message
  | _ => none

end ShaderVariants
