import ShaderVariants.OsError
import ShaderVariants.Path

/-!
A tree of files and directories. A place in the tree is the list of names that lead to it from
the root, which is always a directory. Paths are walked from left to right: every piece but the
last must lead to a directory, and a path that ends in a slash must end at one. Operations on the
tree change the entry at one place, apart from those that are named for more.
-/

namespace ShaderVariants

/-- The names that lead from the root to a place. -/
abbrev Place := List String

inductive Entry where
  | file (bytes : ByteArray)
  | directory

instance : DecidableEq Entry
  | .directory, .directory => isTrue rfl
  | .file a, .file b =>
      if h : a.data = b.data then isTrue (congrArg Entry.file (ByteArray.ext h))
      else isFalse fun same => h (congrArg ByteArray.data (Entry.file.inj same))
  | .file _, .directory => isFalse Entry.noConfusion
  | .directory, .file _ => isFalse Entry.noConfusion

structure FileTree where
  entries : List (Place × Entry)
  /-- Where relative paths start. -/
  working : Place

namespace FileTree

def empty : FileTree := ⟨[], []⟩

def entry? (tree : FileTree) (place : Place) : Option Entry :=
  if place.isEmpty then some .directory else tree.entries.lookup place

def put (tree : FileTree) (place : Place) (entry : Entry) : FileTree :=
  { tree with entries := (place, entry) :: tree.entries.filter (·.1 != place) }

def drop (tree : FileTree) (place : Place) : FileTree :=
  { tree with entries := tree.entries.filter (·.1 != place) }

/-! ## Walking -/

/-- The greatest number of bytes in a name. -/
def maxName : Nat := 255

/-- The greatest number of bytes in the text of a path. -/
def maxPath : Nat := 4095

def checkName (name : String) : Except OsError Unit :=
  if maxName < name.utf8ByteSize then .error .nameTooLong else .ok ()

/-- Refuses a place that is no directory. -/
def checkDirectory (tree : FileTree) (place : Place) : Except OsError Unit :=
  match tree.entry? place with
  | some .directory => .ok ()
  | some (.file _) => .error .notDirectory
  | none => .error .notFound

/-- Where pieces lead to. The place itself may be free; all before it are directories. -/
def walk (tree : FileTree) : Place → List String → Except OsError Place
  | place, [] => .ok place
  | place, piece :: rest => do
      tree.checkDirectory place
      if Path.isFiller piece then tree.walk place rest
      else if piece = ".." then tree.walk place.dropLast rest
      else do
        checkName piece
        tree.walk (place ++ [piece]) rest

/-- Where a path starts, and the pieces to walk from there. -/
def start (tree : FileTree) (path : Path) : Except OsError (Place × List String) :=
  if path.text.contains '\x00' then .error .nulInName
  else if path.text.isEmpty then .error .notFound
  else if maxPath < path.text.utf8ByteSize then .error .nameTooLong
  else if path.isAbsolute then .ok ([], path.pieces.drop 1)
  else .ok (tree.working, path.pieces)

/-- The place of a path, and what is there. -/
def find (tree : FileTree) (path : Path) : Except OsError (Place × Entry) := do
  let (place, pieces) ← tree.start path
  let place ← tree.walk place pieces
  match tree.entry? place with
  | some entry => pure (place, entry)
  | none => .error .notFound

def isFile (tree : FileTree) (path : Path) : Bool :=
  match tree.find path with
  | .ok (_, .file _) => true
  | _ => false

def isDirectory (tree : FileTree) (path : Path) : Bool :=
  match tree.find path with
  | .ok (_, .directory) => true
  | _ => false

/-- The directory that holds the last piece of a path. -/
structure Slot where
  directory : Place
  name : String
  /-- Whether slashes follow the last piece. -/
  slash : Bool

/-- Whether the last piece is a name of its own. -/
def Slot.isName (slot : Slot) : Bool := !Path.isFiller slot.name && slot.name != ".."

def Slot.place (slot : Slot) : Place := slot.directory ++ [slot.name]

/-- Walks a path up to its last piece. -/
def slot (tree : FileTree) (path : Path) : Except OsError Slot := do
  let (place, pieces) ← tree.start path
  match pieces.reverse.dropWhile (· == "") with
  | [] => pure ⟨place, "", true⟩
  | name :: before =>
      let directory ← tree.walk place before.reverse
      tree.checkDirectory directory
      pure ⟨directory, name, pieces.getLast? == some ""⟩

/-! ## Files -/

def readFile (tree : FileTree) (path : Path) : Except OsError ByteArray := do
  match (← tree.find path).2 with
  | .file bytes => pure bytes
  | .directory => .error .isDirectory

/-- The place of a file that may be written. -/
def filePlace (tree : FileTree) (path : Path) : Except OsError Place := do
  let slot ← tree.slot path
  if slot.slash || !slot.isName then .error .isDirectory
  else do
    checkName slot.name
    if tree.entry? slot.place = some .directory then .error .isDirectory else pure slot.place

/-- Makes a file, or gives one another content. -/
def writeFile (tree : FileTree) (path : Path) (bytes : ByteArray) : Except OsError FileTree := do
  let place ← tree.filePlace path
  pure (tree.put place (.file bytes))

def removeFile (tree : FileTree) (path : Path) : Except OsError FileTree := do
  match ← tree.find path with
  | (place, .file _) => pure (tree.drop place)
  | (_, .directory) => .error .isDirectory

/-- Moves a file to a place where there is no directory. -/
def renameFile (tree : FileTree) (source target : Path) : Except OsError FileTree := do
  let bytes ← tree.readFile source
  let tree' ← tree.removeFile source
  let place ← tree.filePlace target
  pure (tree'.put place (.file bytes))

/-- Gives a place where there is no directory what a file holds. -/
def copyFile (tree : FileTree) (source target : Path) : Except OsError FileTree := do
  let bytes ← tree.readFile source
  let place ← tree.filePlace target
  pure (tree.put place (.file bytes))

/-! ## Directories -/

def makeDirectory (tree : FileTree) (path : Path) : Except OsError FileTree := do
  let slot ← tree.slot path
  if !slot.isName then .error .alreadyExists
  else do
    checkName slot.name
    match tree.entry? slot.place with
    | some _ => .error .alreadyExists
    | none => pure (tree.put slot.place .directory)

/-- Whether an answer to `makeDirectory` leaves a directory behind. -/
def settle (tree : FileTree) (path : Path) : Except OsError FileTree → Except OsError FileTree
  | .error .alreadyExists => if tree.isDirectory path then .ok tree else .error .alreadyExists
  | result => result

/-- Makes a directory and those above it that are missing, the uppermost first. `left` bounds
how many; the second part of the answer is the tree, also when a directory cannot be made. -/
def makeMissing : (left : Nat) → FileTree → Path → Except OsError Unit × FileTree
  | 0, tree, _ => (.ok (), tree)
  | left + 1, tree, path =>
      match path.parent? with
      | none => (.ok (), tree)
      | some parent =>
          match tree.settle path (tree.makeDirectory path) with
          | .ok tree => (.ok (), tree)
          | .error .notFound =>
              match makeMissing left tree parent with
              | (.error e, tree) => (.error e, tree)
              | (.ok (), tree) =>
                  match tree.settle path (tree.makeDirectory path) with
                  | .ok tree => (.ok (), tree)
                  | .error e => (.error e, tree)
          | .error e => (.error e, tree)

def makeDirectories (tree : FileTree) (path : Path) : Except OsError Unit × FileTree :=
  makeMissing path.pieces.length tree path

/-- The names in a directory. -/
def list (tree : FileTree) (path : Path) : Except OsError (List String) := do
  match ← tree.find path with
  | (_, .file _) => .error .notDirectory
  | (place, .directory) =>
      let names := tree.entries.filterMap fun (p, _) =>
        if p.dropLast = place then p.getLast? else none
      pure names.eraseDups

end FileTree
end ShaderVariants
