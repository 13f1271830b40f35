import ShaderVariants.Fault

/-!
The types that constants can have: the built-in ones and the shared structures registered so
far. A structure has one name in both languages. The first registration of a name stands, and
no structure takes the name of a built-in type.
-/

namespace ShaderVariants

/-- A type by its name in shader code, its name in C++, and its size in bytes. -/
structure ValueType where
  declared : String
  target : String
  size : Nat
  deriving DecidableEq, Repr

def ValueType.builtins : List ValueType := [
  ⟨"float", "float", 4⟩,
  ⟨"float2", "DirectX::XMFLOAT2", 8⟩,
  ⟨"float3", "DirectX::XMFLOAT3", 12⟩,
  ⟨"float4", "DirectX::XMFLOAT4", 16⟩,
  ⟨"float3x3", "DirectX::XMFLOAT3X3", 36⟩,
  ⟨"float4x4", "DirectX::XMFLOAT4X4", 64⟩,
  ⟨"int", "int32_t", 4⟩,
  ⟨"int2", "DirectX::XMINT2", 8⟩,
  ⟨"int3", "DirectX::XMINT3", 12⟩,
  ⟨"int4", "DirectX::XMINT4", 16⟩,
  ⟨"uint", "uint32_t", 4⟩,
  ⟨"uint2", "DirectX::XMUINT2", 8⟩,
  ⟨"uint3", "DirectX::XMUINT3", 12⟩,
  ⟨"uint4", "DirectX::XMUINT4", 16⟩,
  ⟨"bool", "uint32_t", 4⟩]

def ValueType.builtin? (name : String) : Option ValueType :=
  builtins.find? (·.declared == name)

/-- The registered structures and their sizes, in order of registration. -/
structure TypeScope where
  structures : List (String × Nat)
  deriving DecidableEq, Repr

namespace TypeScope

def empty : TypeScope := ⟨[]⟩

def structureSize? (types : TypeScope) (name : String) : Option Nat :=
  types.structures.lookup name

def isStructure (types : TypeScope) (name : String) : Bool :=
  (types.structureSize? name).isSome

def register (types : TypeScope) (name : String) (size : Nat) : Except Fault TypeScope :=
  if (ValueType.builtin? name).isSome || types.isStructure name then
    .error (.duplicateName .shared name)
  else .ok ⟨types.structures ++ [(name, size)]⟩

def find? (types : TypeScope) (name : String) : Option ValueType :=
  match ValueType.builtin? name with
  | some type => some type
  | none => (types.structureSize? name).map (⟨name, name, ·⟩)

def lookup (types : TypeScope) (name : String) : Except Fault ValueType :=
  match types.find? name with
  | some type => .ok type
  | none => .error (.unknownType name)

end TypeScope
end ShaderVariants
