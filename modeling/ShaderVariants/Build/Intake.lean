import ShaderVariants.Build.Source
import ShaderVariants.Catalog
import ShaderVariants.Layout.Interface
import ShaderVariants.Variant.Plan

/-!
Taking description files into a catalog. All files are read first, then the structures of all are
registered, so that structures may embed those of earlier files, and then the interfaces and the
shader of each are added. A file that fails at a step leaves no trace of that step but its
failure, and has no part in the later steps.
-/

namespace ShaderVariants

structure Intake where
  types : TypeScope
  catalog : Catalog
  log : List LogLine
  /-- Whether a sum of sizes has left the machine words. The program stops there, so nobody sees
  what is taken in afterwards. -/
  overflowed : Bool

/-- A description and the file it is from. -/
structure SourceFile where
  path : Path
  description : Description

namespace Intake

def start (catalog : Catalog) (log : List LogLine) : Intake := ⟨.empty, catalog, log, false⟩

def fail (i : Intake) (message : String) : Intake :=
  { i with
    catalog := i.catalog.addFailure message
    log := i.log ++ [Catalog.failureLine message] }

def failAt (i : Intake) (path : Path) (fault : Fault) : Intake :=
  { i.fail s!"{path.text}: {fault.message}" with
    overflowed := i.overflowed || fault = .overflow }

/-! ## Reading -/

def read (tree : FileTree) (i : Intake) : List Path → List SourceFile × Intake
  | [] => ([], i)
  | path :: paths =>
      match Description.ofFile tree path with
      | .error fault => read tree (i.fail fault.message) paths
      | .ok description =>
          let (files, i) := read tree i paths
          (⟨path, description⟩ :: files, i)

/-! ## Structures -/

/-- Registers structures one after the other; each may embed those before it. -/
def stage : TypeScope → List Description.Structure →
    Except Fault (TypeScope × List SharedStructure)
  | types, [] => .ok (types, [])
  | types, d :: ds => do
      let s ← SharedStructure.ofDescription types d
      let types ← types.register s.name s.byteSize
      let (types, rest) ← stage types ds
      pure (types, s :: rest)

/-- Takes all the structures or none. -/
def addStructures (i : Intake) (ds : List Description.Structure) : Except Fault Unit × Intake :=
  match stage i.types ds with
  | .error fault => (.error fault, i)
  | .ok (types, structures) =>
      match i.catalog.offerStructures structures with
      | (.error fault, catalog) => (.error fault, { i with catalog })
      | (.ok (), catalog) => (.ok (), { i with types, catalog })

/-- The files whose structures are taken. -/
def register (i : Intake) : List SourceFile → List SourceFile × Intake
  | [] => ([], i)
  | file :: files =>
      match i.addStructures file.description.structures with
      | (.error fault, i) => register (i.failAt file.path fault) files
      | (.ok (), i) =>
          let (files, i) := register i files
          (file :: files, i)

/-! ## Interfaces and shaders -/

/-- Offers interfaces and perhaps a shader to a catalog. The lines are logged even if it is
refused. -/
def offer (catalog : Catalog) (interfaces : List Interface) :
    Option Description.Shader → Catalog.Answer × List LogLine
  | none => (catalog.offerDescription interfaces none, [])
  | some d =>
      let lines := Shader.descriptionLines d
      match Shader.ofDescription d with
      | .error fault => ((.error fault, catalog), lines)
      | .ok shader =>
          match catalog.offerDescription interfaces (some shader) with
          | (.error fault, catalog) => ((.error fault, catalog), lines)
          | (.ok (), catalog) => ((.ok (), catalog), lines ++ [Catalog.shaderLine shader])

/-- The catalog after an offer, if it is accepted, and what is logged. -/
def describe (catalog : Catalog) (interfaces : List Interface)
    (shader : Option Description.Shader) : Except Fault Catalog × List LogLine :=
  let (answer, lines) := offer catalog interfaces shader
  (answer.accepted, lines)

def addDescription (i : Intake) (d : Description) : Catalog.Answer × List LogLine :=
  match d.interfaces.mapM (Interface.ofDescription i.types) with
  | .error fault => ((.error fault, i.catalog), [])
  | .ok interfaces => offer i.catalog interfaces d.shader

def processLine (path : Path) : LogLine := ⟨.info, .build, s!"processing {path.text}"⟩

def process (i : Intake) (file : SourceFile) : Intake :=
  match i.addDescription file.description with
  | ((result, catalog), lines) =>
      let i := { i with catalog, log := i.log ++ processLine file.path :: lines }
      match result with
      | .ok () => i
      | .error fault => i.failAt file.path fault

/-- Takes the description files at the given paths. -/
def takeFiles (tree : FileTree) (i : Intake) (paths : List Path) : Intake :=
  let (files, i) := read tree i paths
  let (files, i) := register i files
  files.foldl process i

end Intake
end ShaderVariants
