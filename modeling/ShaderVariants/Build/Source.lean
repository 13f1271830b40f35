import ShaderVariants.Description
import ShaderVariants.FileTree

/-!
The files that descriptions are read from: all regular files directly in the directory of sources
whose names end in `.json`, in the order of their names.
-/

namespace ShaderVariants

namespace FileTree

def descriptionEnding : String := "json"

/-- The description files in a directory. -/
def descriptionFiles (tree : FileTree) (dir : Path) : Except OsError (List Path) := do
  let names ← tree.list dir
  let paths := names.map fun name => dir.join (.single name)
  let files := paths.filter fun p => tree.isFile p && p.extension? == some descriptionEnding
  pure (files.mergeSort Path.le)

/-- The text of a file. -/
def readText (tree : FileTree) (path : Path) : Except OsError String := do
  match String.fromUTF8? (← tree.readFile path) with
  | some text => pure text
  | none => .error .invalidUtf8

end FileTree

/-- What a description file says. -/
def Description.ofFile (tree : FileTree) (path : Path) : Except Fault Description :=
  match tree.readText path with
  | .error e => .error (.file path.text e)
  | .ok text => (Description.ofText text).mapError (.malformed path.text)

end ShaderVariants
