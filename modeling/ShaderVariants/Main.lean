import ShaderVariants.CommandLine.Program

/-!
The program on the files of a machine. The directories that the command line names are taken into
a tree, the run is worked out on that tree, and what it has changed is written back. Whoever runs
the program says how other programs are run; by itself it runs none.
-/

namespace ShaderVariants.Machine

/-- Adds what is at a path, if anything, with all that is below it. -/
partial def load (tree : FileTree) (path : String) : IO FileTree := do
  match ← (IO.FS.realPath path).toBaseIO with
  | .error _ => pure tree
  | .ok there =>
      if ← there.isDir then
        let tree := (tree.makeDirectories (.ofText path)).2
        (← there.readDir).foldlM (fun tree e => load tree s!"{path}/{e.fileName}") tree
      else
        let bytes ← IO.FS.readBinFile path
        pure ((tree.writeFile (.ofText path) bytes).toOption.getD tree)

/-- A path as seen from the root. -/
def fromRoot (tree : FileTree) (path : Path) : String :=
  ((Path.mk ("" :: tree.working)).join path).text

/-- All that a build with these choices may look at. -/
def loadFor (tree : FileTree) (c : Choices) (home : Path) : IO FileTree := do
  let config := c.config home 1
  let log := c.logPath home
  let paths := [config.sourceDir, config.targetDir, config.declaredDir,
    config.compiler.outputDir, log.parent?.getD log]
  paths.foldlM (fun tree path => load tree (fromRoot tree path)) tree

def placeText (place : Place) : String := "/" ++ String.intercalate "/" place

def store (place : Place) (entry : Entry) : IO Unit :=
  match entry with
  | .directory => IO.FS.createDirAll (placeText place)
  | .file bytes => IO.FS.writeBinFile (placeText place) bytes

/-- Writes back what differs; directories come before what is in them. -/
def save (before after : FileTree) : IO Unit := do
  for (place, _) in before.entries do
    if (after.entry? place).isNone then IO.FS.removeFile (placeText place)
  let changed := after.entries.filter fun (place, entry) => before.entry? place ≠ some entry
  for (place, entry) in changed.mergeSort fun a b => a.1.length ≤ b.1.length do
    store place entry

def environment : IO Choices.Environment := do
  let names := Setting.all.filterMap Setting.envName ++ [Program.logVariable]
  let values ← names.mapM fun name => return (← IO.getEnv name).map fun value => (name, value)
  pure (values.filterMap id)

/-- What the names of temporary files end in. -/
def suffix : String := ".variants.tmp"

/-- Runs no program. -/
def noRunner : Runner (FileTree × Unit) := .ofReply fun call =>
  .error (.launch call.program (.other "operation not supported on this platform"))

def run (runner : Runner (FileTree × Unit)) (args : List String) : IO UInt32 := do
  let home : Path := .ofText (← IO.currentDir).toString
  let around : Surroundings := ⟨home, 1, ← environment, suffix⟩
  let bare := (FileTree.empty.makeDirectories home).2
  let bare := { bare with working := home.pieces.drop 1 }
  let before ← match Choices.read around.environment args with
    | .ok c => loadFor bare c home
    | .error _ => pure bare
  let r := Program.run around args runner before ()
  save before r.tree
  IO.eprint r.errors
  pure (UInt32.ofNat r.exit)

end ShaderVariants.Machine

def main (args : List String) : IO UInt32 :=
  ShaderVariants.Machine.run ShaderVariants.Machine.noRunner args
