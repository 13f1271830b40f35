import ShaderVariants.Layout.Interface
import ShaderVariants.Text.Words

/-!
Generated headers. A header is a file name and lines of text; headers of structures and
interfaces include the headers of the structures that they depend on, under the same names in
both languages.
-/

namespace ShaderVariants

/-- A generated file, named as seen from the directory it goes to. -/
structure Header where
  file : String
  content : String
  deriving DecidableEq, Repr

namespace Header

def fileOf (name : String) : String := s!"{name}.h"

def ofLines (file : String) (lines : List String) : Header :=
  ⟨file, String.intercalate "\n" lines⟩

def banner : List String := ["// GENERATED FILE (do not edit directly)"]

def originLine (kind name : String) : String := s!"// generated from {kind}: {name}"

def includeLine (name : String) : String := s!"#include \"{fileOf name}\""

def openBrace : String := "\x7b"
def closeBrace : String := "\x7d;"

/-- A declaration of a field: its type and its name. -/
structure Declaration where
  type : String
  name : String
  deriving DecidableEq, Repr

/-- The fields of a layout as C++ declares them. -/
def targetFields (layout : Layout) : List Declaration :=
  layout.fields.map fun f => ⟨f.type.target, f.name⟩

/-- The fields of a layout as shader code declares them. -/
def declaredFields (layout : Layout) : List Declaration :=
  layout.fields.map fun f => ⟨f.type.declared, f.name⟩

def targetLine (d : Declaration) : String := s!"    {d.type} {d.name} = \x7b\x7d;"

def declaredLine (d : Declaration) : String := s!"    {d.type} {d.name};"

def sizeAssertion (name : String) (size : Nat) : String :=
  s!"static_assert(sizeof({name}) == {size}, \"{name} layout mismatch\");"

/-- The macro that keeps a shader header from being included twice. -/
def guard (name : String) : String := s!"{Text.capitals name}_HLSL_H"

/-- The start of a C++ header, down to what it includes. -/
def targetStart (kind name : String) (dependencies : List String) : List String :=
  banner ++ [originLine kind name, "", "#pragma once", "", "#include <cstdint>",
    "#include <DirectXMath.h>"] ++ dependencies.map includeLine

/-- The start of a shader header, down to what it includes. -/
def declaredStart (kind name : String) (dependencies : List String) : List String :=
  banner ++ [originLine kind name, "", s!"#ifndef {guard name}", s!"#define {guard name}", ""] ++
    dependencies.map includeLine

def declaredEnd (name : String) : List String := ["", s!"#endif // {guard name}"]

end Header
end ShaderVariants
