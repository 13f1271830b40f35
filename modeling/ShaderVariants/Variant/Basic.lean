import ShaderVariants.Variant.Key
import ShaderVariants.Variant.Stage

/-!
One variant of a shader stage: the defines of its key and the names made of them.
-/

namespace ShaderVariants

structure Variant where
  key : Key
  /-- The defines of the key joined by underscores, or `BASE` for the base key. -/
  name : String
  /-- The name behind the name of the shader. -/
  fullName : String
  defines : List String
  /-- The header that the compiler writes. -/
  outputFile : String
  /-- The array in that header. -/
  byteCode : String
  deriving DecidableEq, Repr

namespace Variant

def baseName : String := "BASE"

/-- The defines of a key in ascending order of their bits. -/
def definesOf (key : Key) (defines : List String) : List String :=
  key.active.filterMap (defines[·]?)

def nameOf (key : Key) (defines : List String) : String :=
  if key.isBase then baseName else String.intercalate "_" (definesOf key defines)

def make (shader : String) (stage : Stage) (key : Key) (defines : List String) : Variant :=
  let name := nameOf key defines
  { key
    name
    fullName := s!"{shader}_{name}"
    defines := definesOf key defines
    outputFile := s!"{stage.letters}_{shader}_{name}.h"
    byteCode := s!"g_{stage.letters}_{shader}_{name}" }

end Variant
end ShaderVariants
