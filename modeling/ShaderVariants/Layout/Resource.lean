import ShaderVariants.Layout.ValueType

/-!
Resources that a shader is bound to: the known types, through which kind of register each is
bound, and whether its elements are of a type of their own.
-/

namespace ShaderVariants

inductive ResourceKind where
  /-- Read only, in a `t` register. -/
  | shaderResource
  /-- Read and written in any order, in a `u` register. -/
  | unorderedAccess
  deriving DecidableEq, Repr

def ResourceKind.letter : ResourceKind → String
  | .shaderResource => "t"
  | .unorderedAccess => "u"

structure ResourceType where
  name : String
  kind : ResourceKind
  /-- Whether a type for the elements must be given. -/
  structured : Bool
  deriving DecidableEq, Repr

namespace ResourceType

def all : List ResourceType := [
  ⟨"Texture1D", .shaderResource, false⟩,
  ⟨"Texture2D", .shaderResource, false⟩,
  ⟨"Texture2DArray", .shaderResource, false⟩,
  ⟨"Texture3D", .shaderResource, false⟩,
  ⟨"TextureCube", .shaderResource, false⟩,
  ⟨"Buffer", .shaderResource, false⟩,
  ⟨"ByteAddressBuffer", .shaderResource, false⟩,
  ⟨"StructuredBuffer", .shaderResource, true⟩,
  ⟨"RWTexture1D", .unorderedAccess, false⟩,
  ⟨"RWTexture2D", .unorderedAccess, false⟩,
  ⟨"RWTexture2DArray", .unorderedAccess, false⟩,
  ⟨"RWTexture3D", .unorderedAccess, false⟩,
  ⟨"RWBuffer", .unorderedAccess, false⟩,
  ⟨"RWByteAddressBuffer", .unorderedAccess, false⟩,
  ⟨"RWStructuredBuffer", .unorderedAccess, true⟩,
  ⟨"AppendStructuredBuffer", .unorderedAccess, true⟩,
  ⟨"ConsumeStructuredBuffer", .unorderedAccess, true⟩]

def named (name : String) : Except Fault ResourceType :=
  match all.find? (·.name == name) with
  | some type => .ok type
  | none => .error (.unknownResourceType name)

end ResourceType

/-- A resource of a shader in its register. -/
structure Binding where
  type : ResourceType
  elementType : Option String
  register : Nat
  name : String
  deriving DecidableEq, Repr

namespace Binding

def make (type : String) (elementType : Option String) (register : Nat) (name : String) :
    Except Fault Binding := do
  let type ← ResourceType.named type
  if type.structured && elementType.isNone then .error (.missingElementType name)
  else pure ⟨type, elementType, register, name⟩

/-- The type in shader code, with that of the elements if it is given. -/
def typeText (b : Binding) : String :=
  match b.elementType with
  | some element => s!"{b.type.name}<{element}>"
  | none => b.type.name

def registerText (b : Binding) : String := s!"{b.type.kind.letter}{b.register}"

end Binding
end ShaderVariants
