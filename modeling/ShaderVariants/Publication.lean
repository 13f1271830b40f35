import ShaderVariants.Fault
import ShaderVariants.FileTree
import ShaderVariants.Log

/-!
Publishing a text as a file only where that changes something. The text is first written beside
the target under a temporary name, read back and compared with what the target holds, and then moved
there or dropped. Where it cannot be moved it is copied. Whatever the end, nothing is left under the
temporary name.
-/

namespace ShaderVariants

inductive Publication where
  | written
  /-- The target had the same content already. -/
  | unchanged
  deriving DecidableEq, Repr

namespace FileTree

/-- The temporary name beside a target; what it ends in keeps builds apart. -/
def temporary (suffix : String) (target : Path) : Path :=
  let name := target.fileName?.getD ""
  target.withFileName s!".{name}{suffix}"

def publishLine (target : Path) : Publication → LogLine
  | .written => ⟨.info, .publish, s!"wrote {target.text}"⟩
  | .unchanged => ⟨.debug, .publish, s!"unchanged: {target.text}"⟩

def fileFault (path : Path) (e : OsError) : Fault := .file path.text e

/-- Makes the directory of a target and those above it. -/
def makeParent (tree : FileTree) (target : Path) : Except Fault Unit × FileTree :=
  match target.parent? with
  | none => (.ok (), tree)
  | some parent =>
      let (result, tree) := tree.makeDirectories parent
      (result.mapError (fileFault parent), tree)

/-- What a target holds, if there is one. -/
def contentOf (tree : FileTree) (target : Path) : Except Fault (Option ByteArray) :=
  match tree.readFile target with
  | .ok bytes => .ok (some bytes)
  | .error .notFound => .ok none
  | .error e => .error (fileFault target e)

/-- Moves the temporary file to its target, or else copies it there. -/
def transfer (staged : FileTree) (temp target : Path) : Except Fault FileTree :=
  match staged.renameFile temp target with
  | .ok tree => .ok tree
  | .error _ => (staged.copyFile temp target).mapError (fileFault target)

/-- Gives the target the content of the temporary file where it has another one. -/
def replace (staged : FileTree) (temp target : Path) : Except Fault Publication × FileTree :=
  match staged.contentOf temp, staged.contentOf target with
  | .error fault, _ => (.error fault, staged)
  | _, .error fault => (.error fault, staged)
  | .ok new, .ok old =>
      if new.map (·.data) = old.map (·.data) then (.ok .unchanged, staged)
      else
        match staged.transfer temp target with
        | .ok tree => (.ok .written, tree)
        | .error fault => (.error fault, staged)

/-- Drops the temporary file, if it is still there. -/
def discard (tree : FileTree) (temp : Path) : FileTree :=
  match tree.removeFile temp with
  | .ok tree => tree
  | .error _ => tree

def publish (suffix : String) (tree : FileTree) (target : Path) (content : String) :
    Except Fault Publication × FileTree :=
  match tree.makeParent target with
  | (.error fault, tree) => (.error fault, tree)
  | (.ok (), tree) =>
      let temp := temporary suffix target
      match tree.writeFile temp content.toUTF8 with
      | .error e => (.error (fileFault temp e), tree.discard temp)
      | .ok staged =>
          let (result, tree) := staged.replace temp target
          (result, tree.discard temp)

end FileTree
end ShaderVariants
