import ShaderVariants.Layout.ValueType

/-!
The fields of a constant buffer or a shared structure, one after the other. A finished layout
has a size divisible by 16: `pad` fills it up with four-byte fields under names that are free.
Sizes are exact here, and `padChecked` is `pad` on a machine: it breaks off where a sum of sizes
does not fit in a word.
-/

namespace ShaderVariants

structure LayoutField where
  type : ValueType
  name : String
  /-- Whether the field only fills up the size. -/
  padding : Bool
  deriving DecidableEq, Repr

structure Layout where
  name : String
  register : Nat
  fields : List LayoutField
  deriving DecidableEq, Repr

namespace Layout

def alignment : Nat := 16

def paddingType : ValueType := ⟨"uint", "uint32_t", 4⟩

def paddingName (k : Nat) : String := s!"DummyPaddingVar{k}"

def blank (name : String) (register : Nat) : Layout := ⟨name, register, []⟩

def byteSize (layout : Layout) : Nat := layout.fields.foldr (fun f size => f.type.size + size) 0

def add (layout : Layout) (types : TypeScope) (type name : String) : Except Fault Layout := do
  let type ← types.lookup type
  pure { layout with fields := layout.fields ++ [⟨type, name, false⟩] }

/-- The first `count` padding names that are not taken. As many names as there are taken ones
and wanted ones together are enough to choose from. -/
def freePaddingNames (taken : List String) (count : Nat) : List String :=
  (((List.range (taken.length + count)).map paddingName).filter (!taken.contains ·)).take count

/-- How many four-byte fields fill a size up to the alignment. -/
def missingFields (size : Nat) : Nat :=
  (alignment - size % alignment) % alignment / paddingType.size

def paddingFields (layout : Layout) : List LayoutField :=
  (freePaddingNames (layout.fields.map (·.name)) (missingFields layout.byteSize)).map
    (⟨paddingType, ·, true⟩)

def pad (layout : Layout) : Except Fault Layout :=
  if layout.byteSize % paddingType.size = 0 then
    .ok { layout with fields := layout.fields ++ layout.paddingFields }
  else .error (.unalignedSize layout.name layout.byteSize)

/-! ## Machine words -/

/-- The sizes that a machine word holds are below this one. -/
def wordLimit : Nat := UInt64.size

/-- Sizes that are added up in a word, unless the sum leaves it on the way. -/
def wordSum : (sum : Nat) → List Nat → Option Nat
  | sum, [] => some sum
  | sum, size :: sizes =>
      if sum + size < wordLimit then wordSum (sum + size) sizes else none

/-- The size as a machine adds it up, field by field. -/
def wordSize (layout : Layout) : Option Nat := wordSum 0 (layout.fields.map (·.type.size))

def checkWord (layout : Layout) : Except Fault Unit :=
  if layout.wordSize.isNone then .error .overflow else .ok ()

/-- Fills up a layout on a machine. The sum may leave the words at the fields that are there, and
at the padding that goes on with it. -/
def padChecked (layout : Layout) : Except Fault Layout := do
  layout.checkWord
  let padded ← layout.pad
  padded.checkWord
  pure padded

/-! ## Fields and their types -/

/-- The fields that were declared, without those that fill up the size. -/
def declaredFields (layout : Layout) : List LayoutField :=
  layout.fields.filter (!·.padding)

/-- The registered structures among the given type names, each where it comes first. -/
def structuresAmong (types : TypeScope) (names : List String) : List String :=
  names.foldl
    (fun seen name =>
      if types.isStructure name && !seen.contains name then seen ++ [name] else seen)
    []

end Layout

/-- A structure that several shaders share. -/
structure SharedStructure where
  name : String
  layout : Layout
  deriving DecidableEq, Repr

namespace SharedStructure

def byteSize (s : SharedStructure) : Nat := s.layout.byteSize

/-- The structures that this one embeds. -/
def dependencies (s : SharedStructure) (types : TypeScope) : List String :=
  Layout.structuresAmong types (s.layout.fields.map (·.type.declared))

end SharedStructure
end ShaderVariants
