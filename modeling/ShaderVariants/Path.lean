/-!
Paths as the pieces of their text between slashes. An absolute path begins with an empty piece.
Empty pieces and single dots say nothing about the place, but the text keeps them; a dot that
starts a relative path is a component of its own, and two dots are never resolved here.
-/

namespace ShaderVariants

structure Path where
  pieces : List String
  deriving DecidableEq, Repr

namespace Path

def ofText (text : String) : Path := ⟨(text.toList.splitOn '/').map String.ofList⟩

def text (p : Path) : String := String.intercalate "/" p.pieces

/-- A relative path of a single piece. -/
def single (name : String) : Path := ⟨[name]⟩

def isAbsolute (p : Path) : Bool :=
  match p.pieces with
  | "" :: _ :: _ => true
  | _ => false

/-- The second path as seen from the first. -/
def join (base rest : Path) : Path :=
  if rest.isAbsolute then rest
  else if base.pieces.getLast? = some "" then ⟨base.pieces.dropLast ++ rest.pieces⟩
  else ⟨base.pieces ++ rest.pieces⟩

/-- Whether a piece says nothing about the place. -/
def isFiller (piece : String) : Bool := piece == "" || piece == "."

def dropLastFillers (pieces : List String) : List String :=
  (pieces.reverse.dropWhile isFiller).reverse

/-! ## Components -/

/-- Where a path starts from. -/
inductive Anchor where
  | root
  /-- The directory that relative paths start from, named by a dot. -/
  | here
  | none
  deriving DecidableEq, Repr

/-- The anchor and the pieces behind it. -/
def anchored (p : Path) : Anchor × List String :=
  match p.pieces with
  | "" :: piece :: rest => (.root, piece :: rest)
  | "." :: rest => (.here, rest)
  | pieces => (.none, pieces)

def ofAnchored : Anchor → List String → Path
  | .root, [] => ⟨["", ""]⟩
  | .root, rest => ⟨"" :: rest⟩
  | .here, rest => ⟨"." :: rest⟩
  | .none, [] => ⟨[""]⟩
  | .none, rest => ⟨rest⟩

/-- The path without its last component. -/
def parent? (p : Path) : Option Path :=
  let (anchor, rest) := p.anchored
  match dropLastFillers rest, anchor with
  | [], .here => some (ofAnchored .none [])
  | [], _ => none
  | rest, anchor => some (ofAnchored anchor (dropLastFillers rest.dropLast))

/-- The last component, if it is a name. -/
def fileName? (p : Path) : Option String :=
  match (dropLastFillers p.anchored.2).getLast? with
  | some ".." => none
  | name => name

/-- Puts a name in place of the last component, or behind the path if that is not a name. -/
def withFileName (p : Path) (name : String) : Path :=
  match p.fileName?, p.parent? with
  | some _, some parent => parent.join (single name)
  | _, _ => p.join (single name)

/-- What follows the last dot of the name, unless that dot is its first character. -/
def extension? (p : Path) : Option String :=
  match p.fileName? with
  | none => none
  | some name =>
      match name.toList.reverse.span (· != '.') with
      | (_, []) => none
      | (_, [_]) => none
      | (ending, _) => some (String.ofList ending.reverse)

/-! ## Order -/

/-- Components in the order of their kinds. -/
inductive Part where
  | root
  | here
  | up
  | name (n : String)
  deriving DecidableEq, Repr

def Part.rank : Part → Nat
  | .root => 0
  | .here => 1
  | .up => 2
  | .name _ => 3

def Part.le : Part → Part → Bool
  | .name a, .name b => a ≤ b
  | a, b => a.rank ≤ b.rank

def Part.ofPiece (piece : String) : Part := if piece = ".." then .up else .name piece

def components (p : Path) : List Part :=
  let (anchor, rest) := p.anchored
  let start := match anchor with
    | .root => [.root]
    | .here => [.here]
    | .none => []
  start ++ (rest.filter (!isFiller ·)).map Part.ofPiece

def leComponents : List Part → List Part → Bool
  | [], _ => true
  | _ :: _, [] => false
  | a :: as, b :: bs => if a = b then leComponents as bs else a.le b

/-- Paths in the order of their components. -/
def le (a b : Path) : Bool := leComponents a.components b.components

end Path
end ShaderVariants
