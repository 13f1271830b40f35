import ShaderVariants.Catalog
import ShaderVariants.Header.Interface
import ShaderVariants.Publication

/-!
The headers that a build writes, and writing them. The headers of one directory are published in
the order of their paths; the first that cannot be published ends the build.
-/

namespace ShaderVariants

namespace Catalog

/-- The headers of structures and interfaces in C++, and the header of all keys. -/
def targetHeaders (c : Catalog) (types : TypeScope) : List Header :=
  c.sortedStructures.map (Header.targetStructure · types) ++
    c.sortedInterfaces.map Header.targetInterface ++ [Header.keys c.keyFields]

/-- The headers of structures and interfaces for shader code. -/
def declaredHeaders (c : Catalog) (types : TypeScope) : List Header :=
  c.sortedStructures.map (Header.declaredStructure · types) ++
    c.sortedInterfaces.map Header.declaredInterface

end Catalog

def Header.path (h : Header) : Path := .ofText h.file

/-- What has been published so far. -/
structure Output where
  tree : FileTree
  written : List Path
  unchanged : List Path
  log : List LogLine

namespace Output

def start (tree : FileTree) : Output := ⟨tree, [], [], []⟩

def record (o : Output) (tree : FileTree) (target : Path) (p : Publication) : Output :=
  let log := o.log ++ [FileTree.publishLine target p]
  match p with
  | .written => { o with tree, log, written := o.written ++ [target] }
  | .unchanged => { o with tree, log, unchanged := o.unchanged ++ [target] }

/-- Publishes headers in the given order. -/
def publishEach (suffix : String) (dir : Path) : Output → List Header → Except Fault Unit × Output
  | o, [] => (.ok (), o)
  | o, h :: hs =>
      let target := dir.join h.path
      match o.tree.publish suffix target h.content with
      | (.error fault, tree) => (.error fault, { o with tree })
      | (.ok p, tree) => publishEach suffix dir (o.record tree target p) hs

/-- Publishes headers in the order of their paths. -/
def publishAll (suffix : String) (dir : Path) (o : Output) (hs : List Header) :
    Except Fault Unit × Output :=
  publishEach suffix dir o (hs.mergeSort fun a b => a.path.le b.path)

end Output
end ShaderVariants
