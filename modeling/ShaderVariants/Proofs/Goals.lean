import ShaderVariants.Proofs.Trees

/-!
Where a path can lead to, read off its pieces alone. What is in the tree decides whether a walk
comes to its end, but not where that is: the goal of a path. So paths with different goals never
lead to the same place.
-/

namespace ShaderVariants

def Place.step (place : Place) (piece : String) : Place :=
  if Path.isFiller piece then place
  else if piece = ".." then place.dropLast
  else place ++ [piece]

namespace FileTree

/-- The only place that a path can lead to. -/
def goal (tree : FileTree) (path : Path) : Place :=
  path.pieces.foldl Place.step (if path.isAbsolute then [] else tree.working)

theorem step_of_isName (place : Place) {name : String} (plain : Path.IsName name) :
    Place.step place name = place ++ [name] := by
  simp [Place.step, plain.solid, plain.down]

theorem walk_eq_foldl (tree : FileTree) (pieces : List String) (place last : Place)
    (walked : tree.walk place pieces = .ok last) : last = pieces.foldl Place.step place := by
  induction pieces generalizing place with
  | nil =>
    cases walked
    rfl
  | cons piece rest ih =>
    simp only [walk, bind_eq_ok] at walked
    obtain ⟨_, _, walked⟩ := walked
    rw [List.foldl_cons, Place.step]
    split at walked
    case isTrue filler =>
      rw [if_pos filler]
      exact ih _ walked
    case isFalse solid =>
      rw [if_neg solid]
      split at walked
      case isTrue up =>
        rw [if_pos up]
        exact ih _ walked
      case isFalse down =>
        rw [if_neg down]
        obtain ⟨_, _, walked⟩ := bind_eq_ok.mp walked
        exact ih _ walked

theorem start_goal (tree : FileTree) (path : Path) (origin : Place) (pieces : List String)
    (started : tree.start path = .ok (origin, pieces)) :
    tree.goal path = pieces.foldl Place.step origin := by
  unfold start at started
  split at started
  · cases started
  split at started
  · cases started
  split at started
  · cases started
  split at started
  case isTrue absolute =>
    cases started
    rw [goal, if_pos absolute]
    unfold Path.isAbsolute at absolute
    split at absolute
    case h_1 next rest shape =>
      rw [shape]
      rfl
    · cases absolute
  case isFalse relative =>
    cases started
    rw [goal, if_neg relative]

theorem Leads.goal {tree : FileTree} {path : Path} {place : Place}
    (leads : tree.Leads path place) : place = tree.goal path := by
  obtain ⟨origin, pieces, started, walked⟩ := leads
  rw [start_goal tree path origin pieces started, walk_eq_foldl tree pieces origin place walked]

theorem Keeps.goal {tree later : FileTree} (keeps : tree.Keeps later) (path : Path) :
    later.goal path = tree.goal path := by
  rw [FileTree.goal, FileTree.goal, keeps.working]

/-! ## Joined paths, and parents -/

theorem goal_join_single (tree : FileTree) (dir : Path) (name : String) :
    tree.goal (dir.join (.single name)) = Place.step (tree.goal dir) name := by
  obtain ⟨before, pieces, shape⟩ := dir.join_single_pieces name
  have absolute := dir.join_single_isAbsolute name
  unfold goal
  rw [absolute, pieces, List.foldl_append, List.foldl_cons, List.foldl_nil]
  rcases shape with ⟨rfl, _⟩ | slash
  · rfl
  · rw [slash, List.foldl_append]
    rfl

theorem foldl_step_fillers (place : Place) (fillers : List String)
    (all : ∀ f ∈ fillers, Path.isFiller f = true) : fillers.foldl Place.step place = place := by
  induction fillers with
  | nil => rfl
  | cons f fillers ih =>
    rw [List.forall_mem_cons] at all
    rw [List.foldl_cons, Place.step, if_pos all.1, ih all.2]

theorem foldl_step_dropLastFillers (pieces : List String) (place : Place) :
    (Path.dropLastFillers pieces).foldl Place.step place = pieces.foldl Place.step place := by
  obtain ⟨fillers, split, all⟩ := Path.dropLastFillers_append_fillers pieces
  have whole := congrArg (List.foldl Place.step place) split
  rw [List.foldl_append, foldl_step_fillers _ fillers all] at whole
  exact whole.symm

def origin (tree : FileTree) : Path.Anchor → Place
  | .root => []
  | _ => tree.working

theorem goal_eq_anchored (tree : FileTree) (path : Path) :
    tree.goal path = path.anchored.2.foldl Place.step (tree.origin path.anchored.1) := by
  unfold Path.anchored
  split
  case h_1 next rest shape =>
    rw [goal, if_pos ((Path.isAbsolute_iff path).mpr ⟨next, rest, shape⟩), shape]
    rfl
  case h_2 rest shape =>
    have relative : ¬path.isAbsolute = true := by simp [Path.isAbsolute_iff, shape]
    rw [goal, if_neg relative, shape]
    rfl
  case h_3 other _ =>
    have relative : ¬path.isAbsolute = true := by
      rw [Path.isAbsolute_iff]
      rintro ⟨next, rest, shape⟩
      exact other next rest shape
    rw [goal, if_neg relative]
    rfl

theorem goal_ofAnchored (tree : FileTree) (anchor : Path.Anchor) (rest : List String)
    (free : anchor = .none → ∀ next tail, rest ≠ "" :: next :: tail) :
    tree.goal (.ofAnchored anchor rest) = rest.foldl Place.step (tree.origin anchor) := by
  unfold Path.ofAnchored
  split
  case h_1 => rfl
  case h_2 rest nonempty =>
    obtain ⟨next, tail, rfl⟩ := List.exists_cons_of_ne_nil nonempty
    rw [goal, if_pos ((Path.isAbsolute_iff _).mpr ⟨next, tail, rfl⟩)]
    rfl
  case h_3 =>
    have relative : ¬(Path.mk ("." :: rest)).isAbsolute = true := by simp [Path.isAbsolute_iff]
    rw [goal, if_neg relative]
    rfl
  case h_4 => rfl
  case h_5 =>
    have relative : ¬(Path.mk rest).isAbsolute = true := by
      rw [Path.isAbsolute_iff]
      rintro ⟨next, tail, shape⟩
      exact free rfl next tail shape
    rw [goal, if_neg relative]
    rfl

/-- The parent of a path that ends in a name leads to where this name is looked up. -/
theorem goal_parent (tree : FileTree) {path : Path} {name : String} (ends : path.EndsIn name) :
    ∃ parent, path.parent? = some parent ∧ tree.goal path = tree.goal parent ++ [name] := by
  obtain ⟨anchor, before, shape, parent⟩ := ends.parent?
  refine ⟨_, parent, ?_⟩
  have free : anchor = .none → ∀ next tail, Path.dropLastFillers before ≠ "" :: next :: tail := by
    rintro rfl next tail start
    obtain ⟨fillers, split, _⟩ := Path.dropLastFillers_append_fillers before
    rw [split, start] at shape
    exact Path.anchored_none shape next _ rfl
  rw [goal_eq_anchored, shape, List.foldl_append, List.foldl_cons, List.foldl_nil,
    step_of_isName _ ends.plain, goal_ofAnchored tree anchor _ free,
    foldl_step_dropLastFillers before]

end FileTree
end ShaderVariants
