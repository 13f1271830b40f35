import ShaderVariants.FileTree
import ShaderVariants.Proofs.Paths
import ShaderVariants.Proofs.Refusals

/-!
What walks in a tree of files depend on. A walk only looks at the directories on its way, so it
ends at the same place in every tree that keeps these. Writing a file, moving one and dropping
one keep all directories.
-/

namespace ShaderVariants

namespace FileTree

/-! ## Entries -/

theorem entry?_root (tree : FileTree) : tree.entry? [] = some .directory := rfl

theorem entry?_of_ne_nil (tree : FileTree) {place : Place} (below : place ≠ []) :
    tree.entry? place = tree.entries.lookup place := by
  unfold entry?
  rw [if_neg (by simpa using below)]

private theorem lookup_filter_ne (entries : List (Place × Entry)) (place other : Place)
    (apart : other ≠ place) :
    (entries.filter (·.1 != place)).lookup other = entries.lookup other := by
  induction entries with
  | nil => rfl
  | cons first rest ih =>
    obtain ⟨here, entry⟩ := first
    by_cases same : here = place
    · subst same
      rw [List.filter_cons_of_neg (by simp), ih, List.lookup_cons, beq_false_of_ne apart]
    · rw [List.filter_cons_of_pos (by simpa using same), List.lookup_cons, List.lookup_cons, ih]

theorem entry?_put_self (tree : FileTree) {place : Place} (entry : Entry) (below : place ≠ []) :
    entry? (tree.put place entry) place = some entry := by
  rw [entry?_of_ne_nil _ below]
  exact List.lookup_cons_self

theorem entry?_put_of_ne (tree : FileTree) {place other : Place} (entry : Entry)
    (apart : other ≠ place) : entry? (tree.put place entry) other = tree.entry? other := by
  by_cases root : other = []
  · rw [root, entry?_root, entry?_root]
  · rw [entry?_of_ne_nil _ root, entry?_of_ne_nil _ root, put, List.lookup_cons,
      beq_false_of_ne apart]
    exact lookup_filter_ne _ _ _ apart

theorem entry?_drop_of_ne (tree : FileTree) {place other : Place} (apart : other ≠ place) :
    entry? (tree.drop place) other = tree.entry? other := by
  by_cases root : other = []
  · rw [root, entry?_root, entry?_root]
  · rw [entry?_of_ne_nil _ root, entry?_of_ne_nil _ root]
    exact lookup_filter_ne _ _ _ apart

theorem entry?_drop_self (tree : FileTree) {place : Place} (below : place ≠ []) :
    entry? (tree.drop place) place = none := by
  rw [entry?_of_ne_nil _ below, drop, List.lookup_eq_none_iff]
  intro e member
  have apart := (List.mem_filter.mp member).2
  rw [bne_iff_ne] at apart ⊢
  exact apart.symm

theorem drop_directory (tree : FileTree) {place other : Place}
    (found : entry? (tree.drop place) other = some .directory) :
    tree.entry? other = some .directory := by
  by_cases root : other = []
  · rw [root, entry?_root]
  · by_cases same : other = place
    · subst same
      rw [entry?_drop_self _ root] at found
      cases found
    · rwa [entry?_drop_of_ne tree same] at found

theorem checkDirectory_iff (tree : FileTree) (place : Place) :
    tree.checkDirectory place = .ok () ↔ tree.entry? place = some .directory := by
  unfold checkDirectory
  split
  case h_1 found => simp [found]
  case h_2 found => simp [found]
  case h_3 found => simp [found]

/-! ## Trees that keep the directories of another -/

structure Keeps (tree later : FileTree) : Prop where
  directories : ∀ place, tree.entry? place = some .directory →
    later.entry? place = some .directory
  working : later.working = tree.working

theorem Keeps.refl (tree : FileTree) : tree.Keeps tree := ⟨fun _ found => found, rfl⟩

theorem Keeps.trans {first second third : FileTree} (one : first.Keeps second)
    (two : second.Keeps third) : first.Keeps third :=
  ⟨fun place found => two.directories place (one.directories place found),
    two.working.trans one.working⟩

theorem keeps_put (tree : FileTree) {place : Place} (bytes : ByteArray)
    (free : tree.entry? place ≠ some .directory) : tree.Keeps (tree.put place (.file bytes)) := by
  refine ⟨fun other found => ?_, rfl⟩
  have apart : other ≠ place := by
    rintro rfl
    exact free found
  rw [entry?_put_of_ne _ _ apart, found]

theorem put_keeps (tree : FileTree) {place : Place} (bytes : ByteArray) (below : place ≠ []) :
    (tree.put place (.file bytes)).Keeps tree := by
  refine ⟨fun other found => ?_, rfl⟩
  by_cases same : other = place
  · rw [same, entry?_put_self _ _ below] at found
    cases found
  · rwa [entry?_put_of_ne _ _ same] at found

theorem keeps_drop (tree : FileTree) {place : Place} (free : tree.entry? place ≠ some .directory) :
    tree.Keeps (tree.drop place) := by
  refine ⟨fun other found => ?_, rfl⟩
  have apart : other ≠ place := by
    rintro rfl
    exact free found
  rw [entry?_drop_of_ne _ apart, found]

structure Alike (tree later : FileTree) : Prop where
  keeps : tree.Keeps later
  back : later.Keeps tree

theorem Alike.refl (tree : FileTree) : tree.Alike tree := ⟨Keeps.refl tree, Keeps.refl tree⟩

theorem Alike.trans {first second third : FileTree} (one : first.Alike second)
    (two : second.Alike third) : first.Alike third :=
  ⟨one.keeps.trans two.keeps, two.back.trans one.back⟩

theorem alike_put (tree : FileTree) {place : Place} (bytes : ByteArray) (below : place ≠ [])
    (free : tree.entry? place ≠ some .directory) : tree.Alike (tree.put place (.file bytes)) :=
  ⟨keeps_put tree bytes free, put_keeps tree bytes below⟩

theorem alike_drop (tree : FileTree) {place : Place} (free : tree.entry? place ≠ some .directory) :
    tree.Alike (tree.drop place) :=
  ⟨keeps_drop tree free, ⟨fun _ => drop_directory tree, rfl⟩⟩

/-! ## Walks -/

theorem walk_append (tree : FileTree) (place : Place) (before after : List String) :
    tree.walk place (before ++ after) = (tree.walk place before).bind (tree.walk · after) := by
  induction before generalizing place with
  | nil => rfl
  | cons piece rest ih =>
    simp only [List.cons_append, walk, ih, bind, Except.bind]
    cases tree.checkDirectory place with
    | error e => rfl
    | ok _ =>
      dsimp only
      split
      · rfl
      · split
        · rfl
        · cases checkName piece <;> rfl

theorem walk_singleton (tree : FileTree) (place : Place) {name : String}
    (plain : Path.IsName name) :
    tree.walk place [name] = (tree.checkDirectory place).bind fun _ =>
      (checkName name).map fun _ => place ++ [name] := by
  simp only [walk, bind, Except.bind, plain.solid, plain.down]
  cases tree.checkDirectory place with
  | error e => rfl
  | ok _ => cases checkName name <;> rfl

theorem Keeps.walk {tree later : FileTree} (keeps : tree.Keeps later) (pieces : List String)
    (place goal : Place) (found : tree.walk place pieces = .ok goal) :
    later.walk place pieces = .ok goal := by
  induction pieces generalizing place with
  | nil => exact found
  | cons piece rest ih =>
    simp only [FileTree.walk, bind, Except.bind] at found ⊢
    cases checked : tree.checkDirectory place with
    | error e =>
      rw [checked] at found
      cases found
    | ok _ =>
      have stays := keeps.directories place ((checkDirectory_iff tree place).mp checked)
      rw [(checkDirectory_iff later place).mpr stays]
      rw [checked] at found
      dsimp only at found ⊢
      by_cases filler : Path.isFiller piece = true
      · rw [if_pos filler] at found ⊢
        exact ih place found
      rw [if_neg filler] at found ⊢
      by_cases up : piece = ".."
      · rw [if_pos up] at found ⊢
        exact ih place.dropLast found
      rw [if_neg up] at found ⊢
      cases fits : checkName piece with
      | error e =>
        rw [fits] at found
        cases found
      | ok _ =>
        rw [fits] at found
        exact ih (place ++ [piece]) found

/-! ## Where paths lead -/

/-- Whether a path leads to a place, be there an entry or not. -/
def Leads (tree : FileTree) (path : Path) (place : Place) : Prop :=
  ∃ origin pieces, tree.start path = .ok (origin, pieces) ∧ tree.walk origin pieces = .ok place

theorem Keeps.start {tree later : FileTree} (keeps : tree.Keeps later) (path : Path) :
    later.start path = tree.start path := by
  unfold FileTree.start
  rw [keeps.working]

theorem Leads.kept {tree later : FileTree} {path : Path} {place : Place}
    (leads : tree.Leads path place) (keeps : tree.Keeps later) : later.Leads path place := by
  obtain ⟨origin, pieces, started, walked⟩ := leads
  exact ⟨origin, pieces, (keeps.start path).trans started, keeps.walk _ _ _ walked⟩

theorem find_iff (tree : FileTree) (path : Path) (place : Place) (entry : Entry) :
    tree.find path = .ok (place, entry) ↔
      tree.Leads path place ∧ tree.entry? place = some entry := by
  unfold find
  simp only [bind_eq_ok]
  constructor
  · rintro ⟨⟨origin, pieces⟩, started, goal, walked, there⟩
    split at there
    · cases there
      exact ⟨⟨origin, pieces, started, walked⟩, by assumption⟩
    · cases there
  · rintro ⟨⟨origin, pieces, started, walked⟩, there⟩
    refine ⟨⟨origin, pieces⟩, started, place, walked, ?_⟩
    rw [there]
    rfl

theorem readFile_iff (tree : FileTree) (path : Path) (bytes : ByteArray) :
    tree.readFile path = .ok bytes ↔
      ∃ place, tree.Leads path place ∧ tree.entry? place = some (.file bytes) := by
  unfold readFile
  rw [bind_eq_ok]
  constructor
  · rintro ⟨⟨place, entry⟩, located, content⟩
    cases entry with
    | directory => cases content
    | file content' =>
      cases content
      exact ⟨place, (find_iff tree path place _).mp located⟩
  · rintro ⟨place, there⟩
    exact ⟨(place, .file bytes), (find_iff tree path place _).mpr there, rfl⟩

/-- A path starts with nothing but its pieces, so it ends in what they end in. -/
theorem start_getLast? (tree : FileTree) (path : Path) (origin : Place) (pieces : List String)
    (started : tree.start path = .ok (origin, pieces)) :
    pieces.getLast? = path.pieces.getLast? := by
  unfold start at started
  split at started
  · cases started
  split at started
  · cases started
  split at started
  · cases started
  split at started
  case isTrue absolute =>
    cases started
    unfold Path.isAbsolute at absolute
    split at absolute
    case h_1 next rest shape =>
      rw [shape]
      rfl
    · cases absolute
  · cases started
    rfl

theorem start_absolute (tree : FileTree) {path : Path} (absolute : path.isAbsolute = true)
    (clean : '\x00' ∉ path.text.toList) (short : path.text.utf8ByteSize ≤ maxPath) :
    tree.start path = .ok ([], path.pieces.drop 1) := by
  have whole : path.text.contains '\x00' = false := by
    rw [String.contains_char_eq]
    simpa using clean
  have solid : path.text.isEmpty = false := by
    rw [Bool.eq_false_iff, ne_eq, String.isEmpty_iff]
    intro empty
    obtain ⟨next, rest, shape⟩ := (Path.isAbsolute_iff path).mp absolute
    rw [Path.text, shape, String.intercalate_cons_cons] at empty
    have chars := congrArg String.toList empty
    simp at chars
  unfold start
  rw [whole, solid, if_neg Bool.false_ne_true, if_neg Bool.false_ne_true,
    if_neg (Nat.not_lt.mpr short), if_pos absolute]

theorem leads_iff_of_endsIn (tree : FileTree) (path : Path) (place : Place) {name : String}
    (ends : path.EndsIn name) : tree.Leads path place ↔ ∃ origin before directory,
      tree.start path = .ok (origin, before ++ [name]) ∧
      tree.walk origin before = .ok directory ∧
      tree.entry? directory = some .directory ∧ checkName name = .ok () ∧
      place = directory ++ [name] := by
  constructor
  · rintro ⟨origin, pieces, started, walked⟩
    have same := (start_getLast? tree path origin pieces started).trans ends.last
    obtain ⟨before, rfl⟩ := List.getLast?_eq_some_iff.mp same
    rw [walk_append] at walked
    cases first : tree.walk origin before with
    | error e =>
      rw [first] at walked
      cases walked
    | ok directory =>
      rw [first] at walked
      simp only [Except.bind, walk_singleton tree directory ends.plain] at walked
      cases checked : tree.checkDirectory directory with
      | error e =>
        rw [checked] at walked
        cases walked
      | ok _ =>
        rw [checked] at walked
        cases fits : checkName name with
        | error e =>
          rw [fits] at walked
          cases walked
        | ok _ =>
          rw [fits] at walked
          cases walked
          exact ⟨origin, before, directory, started, first,
            (checkDirectory_iff tree directory).mp checked, rfl, rfl⟩
  · rintro ⟨origin, before, directory, started, first, found, fits, rfl⟩
    refine ⟨origin, before ++ [name], started, ?_⟩
    rw [walk_append, first]
    simp only [Except.bind, walk_singleton tree directory ends.plain,
      (checkDirectory_iff tree directory).mpr found, fits, Except.map]

theorem Leads.getLast? {tree : FileTree} {path : Path} {place : Place}
    (leads : tree.Leads path place) {name : String} (ends : path.EndsIn name) :
    place.getLast? = some name := by
  obtain ⟨_, _, directory, _, _, _, _, rfl⟩ := (leads_iff_of_endsIn tree path place ends).mp leads
  exact List.getLast?_concat

end FileTree
end ShaderVariants
