import ShaderVariants.Proofs.Settled
import ShaderVariants.Proofs.Targets

/-!
Publishing several headers a second time. Headers that go to different files are all settled once
they are published, whatever was under their temporary names before. Publishing settled headers
lists all of them as unchanged and leaves the tree as it is.
-/

namespace ShaderVariants

/-! ## Where headers go -/

namespace Header

private theorem splitOn_getLast? (chars : List Char) : ∃ stem,
    ((chars ++ ['.', 'h']).splitOn '/').getLast? = some (stem ++ ['.', 'h']) := by
  induction chars with
  | nil => exact ⟨[], by decide⟩
  | cons c chars ih =>
    obtain ⟨stem, last⟩ := ih
    rw [List.cons_append, List.splitOn, List.splitOnP_cons_eq_if_modifyHead]
    rw [List.splitOn] at last
    cases shape : (chars ++ ['.', 'h']).splitOnP (· == '/') with
    | nil => exact absurd shape (List.splitOnP_ne_nil _ _)
    | cons piece rest =>
      rw [shape] at last
      by_cases slash : c = '/'
      · rw [if_pos (by simpa using slash), List.getLast?_cons_cons]
        exact ⟨stem, last⟩
      · rw [if_neg (by simpa using slash), List.modifyHead_cons]
        cases rest with
        | nil =>
          cases last
          exact ⟨c :: stem, rfl⟩
        | cons next rest => exact ⟨stem, last⟩

/-- A header ends up in a file with the ending of headers, also where its name has slashes. -/
theorem join_path_endsIn_some (dir : Path) {h : Header} {name : String}
    (file : h.file = fileOf name) : ∃ stem, (dir.join h.path).EndsIn (fileOf stem) := by
  obtain ⟨stem, last⟩ := splitOn_getLast? name.toList
  have piece : fileOf (.ofList stem) = .ofList (stem ++ ['.', 'h']) := by
    rw [← String.toList_inj, fileOf_toList, String.toList_ofList, String.toList_ofList]
  have ends : h.path.pieces.getLast? = some (fileOf (.ofList stem)) := by
    rw [Header.path, file, Path.ofText, fileOf_toList, List.getLast?_map, last, piece]
    rfl
  refine ⟨.ofList stem, fileOf_isName _, ?_⟩
  rw [Path.join_getLast?, ends]
  intro empty
  rw [empty] at ends
  cases ends

end Header

namespace Output
open FileTree (temporary Settled Confined)

/-- Whether targets lead to different places, and none of them where the temporary file of one of
them goes. -/
structure Spread (suffix : String) (goal : Path → Place) (targets : List Path) : Prop where
  named : ∀ t ∈ targets, ∃ name, t.EndsIn name
  distinct : (targets.map goal).Nodup
  apart : ∀ t ∈ targets, goal (temporary suffix t) ∉ targets.map goal

section
variable {suffix : String} {goal : Path → Place} {targets others : List Path}

theorem Spread.left (spread : Spread suffix goal (targets ++ others)) :
    Spread suffix goal targets where
  named t member := spread.named t (List.mem_append_left _ member)
  distinct := by
    have distinct := spread.distinct
    rw [List.map_append] at distinct
    exact (List.nodup_append.mp distinct).1
  apart t member inside := by
    apply spread.apart t (List.mem_append_left _ member)
    rw [List.map_append]
    exact List.mem_append_left _ inside

theorem Spread.right (spread : Spread suffix goal (targets ++ others)) :
    Spread suffix goal others where
  named t member := spread.named t (List.mem_append_right _ member)
  distinct := by
    have distinct := spread.distinct
    rw [List.map_append] at distinct
    exact (List.nodup_append.mp distinct).2.1
  apart t member inside := by
    apply spread.apart t (List.mem_append_right _ member)
    rw [List.map_append]
    exact List.mem_append_right _ inside

end

def places (suffix : String) (goal : Path → Place) (targets : List Path) : List Place :=
  targets.map goal ++ targets.map fun t => goal (temporary suffix t)

/-- How publishing goes from one output to another where temporary files may be in the way at the
start: in the end the files are settled and there is none. -/
structure Settles (suffix : String) (o later : Output) (files : List (Path × String)) : Prop where
  confined : Confined o.tree later.tree (places suffix o.tree.goal (files.map (·.1)))
  settled : ∀ f ∈ files, Settled suffix later.tree f.1 f.2
  clear : ∀ f ∈ files, ∀ bytes,
    later.tree.entry? (o.tree.goal (temporary suffix f.1)) ≠ some (.file bytes)
  listed : later.targets.Perm (o.targets ++ files.map (·.1))

theorem settles_nil (suffix : String) {o : Output} {tree : FileTree} (log : List LogLine)
    (confined : Confined o.tree tree []) : Settles suffix o { o with tree, log } [] :=
  ⟨confined, by simp, by simp, by simp [targets]⟩

theorem Settles.append {suffix : String} {o middle later : Output}
    {files others : List (Path × String)} (one : Settles suffix o middle files)
    (two : Settles suffix middle later others)
    (spread : Spread suffix o.tree.goal ((files ++ others).map (·.1))) :
    Settles suffix o later (files ++ others) := by
  have same : middle.tree.goal = o.tree.goal := funext one.confined.keeps.goal
  have confined := two.confined
  have clear := two.clear
  rw [same] at confined clear
  have target (f : Path × String) (member : f ∈ files) :
      o.tree.goal f.1 ∉ places suffix o.tree.goal (others.map (·.1)) := by
    intro inside
    have distinct := spread.distinct
    rw [List.map_append, List.map_append, List.nodup_append] at distinct
    rcases List.mem_append.mp inside with goal | temp
    · exact distinct.2.2 _ (List.mem_map_of_mem (List.mem_map_of_mem member)) _ goal rfl
    · obtain ⟨other, inside', here⟩ := List.mem_map.mp temp
      apply spread.apart other
      · rw [List.map_append]
        exact List.mem_append_right _ inside'
      · rw [here, List.map_append, List.map_append]
        exact List.mem_append_left _ (List.mem_map_of_mem (List.mem_map_of_mem member))
  refine ⟨?_, ?_, ?_, ?_⟩
  · refine (one.confined.trans confined).mono fun place inside => ?_
    simp only [places, List.map_append, List.mem_append] at inside ⊢
    tauto
  · intro f member
    rcases List.mem_append.mp member with earlier | last
    · refine (one.settled f earlier).kept confined ?_
      rw [same]
      exact target f earlier
    · exact two.settled f last
  · intro f member
    rcases List.mem_append.mp member with earlier | last
    · by_cases again : o.tree.goal (temporary suffix f.1) ∈
          others.map fun g => o.tree.goal (temporary suffix g.1)
      · -- two files with the same temporary name: the later one has cleared it
        obtain ⟨g, inside, here⟩ := List.mem_map.mp again
        rw [← here]
        exact clear g inside
      · refine confined.free (one.clear f earlier) fun inside => ?_
        rcases List.mem_append.mp inside with goal | temp
        · apply spread.apart f.1
          · exact List.mem_map_of_mem (List.mem_append_left _ earlier)
          · rw [List.map_append, List.map_append]
            exact List.mem_append_right _ goal
        · rw [List.map_map] at temp
          exact again temp
    · exact clear f last
  · have whole := two.listed.trans (one.listed.append_right _)
    rwa [List.append_assoc, ← List.map_append] at whole

theorem record_targets (o : Output) (tree : FileTree) (target : Path) (p : Publication) :
    (o.record tree target p).targets.Perm (o.targets ++ [target]) := by
  cases p with
  | written =>
    simp only [record, targets, List.append_assoc]
    exact List.perm_append_comm.append_left _
  | unchanged =>
    simp only [record, targets, List.append_assoc]
    exact List.Perm.refl _

theorem record_tree (o : Output) (tree : FileTree) (target : Path) (p : Publication) :
    (o.record tree target p).tree = tree := by
  cases p <;> rfl

theorem publish_settles {suffix : String} {o : Output} {tree : FileTree} {target : Path}
    {content : String} {p : Publication} (named : ∃ name, target.EndsIn name)
    (success : o.tree.publish suffix target content = (.ok p, tree)) :
    Settles suffix o (o.record tree target p) [(target, content)] := by
  obtain ⟨settled, vacant, confined⟩ := FileTree.publish_settles named success
  refine ⟨?_, ?_, ?_, o.record_targets tree target p⟩
  · rw [record_tree]
    exact confined
  · rw [record_tree]
    exact List.forall_mem_singleton.mpr settled
  · rw [record_tree]
    refine List.forall_mem_singleton.mpr fun bytes => ?_
    rw [vacant]
    exact Option.some_ne_none _ ∘ Eq.symm

theorem publishEach_settles (suffix : String) (dir : Path) (hs : List Header) (o later : Output)
    (spread : Spread suffix o.tree.goal (hs.map fun h => dir.join h.path))
    (success : publishEach suffix dir o hs = (.ok (), later)) :
    Settles suffix o later (hs.map fun h => (dir.join h.path, h.content)) := by
  induction hs generalizing o with
  | nil =>
    cases success
    exact settles_nil suffix later.log (Confined.refl later.tree)
  | cons h hs ih =>
    rw [publishEach] at success
    split at success
    · cases success
    case h_2 p tree published =>
      have first := publish_settles (spread.named _ List.mem_cons_self) published
      have same : (o.record tree (dir.join h.path) p).tree.goal = o.tree.goal :=
        funext first.confined.keeps.goal
      have rest := ih _ (by
        rw [same]
        rw [List.map_cons, ← List.singleton_append] at spread
        exact spread.right) success
      rw [List.map_cons, ← List.singleton_append]
      refine first.append rest ?_
      rwa [List.map_append, List.map_map]

theorem publishAll_settles (suffix : String) (dir : Path) (hs : List Header) (o later : Output)
    (spread : Spread suffix o.tree.goal ((filesIn dir hs).map (·.1)))
    (success : publishAll suffix dir o hs = (.ok (), later)) :
    Settles suffix o later (filesIn dir hs) := by
  apply publishEach_settles suffix dir _ o later _ success
  rwa [filesIn, List.map_map] at spread

/-! ## A second time -/

/-- Whether files are settled, and nothing at all is under their temporary names. -/
def Rests (suffix : String) (tree : FileTree) (files : List (Path × String)) : Prop :=
  ∀ f ∈ files, Settled suffix tree f.1 f.2 ∧ tree.entry? (tree.goal (temporary suffix f.1)) = none

theorem publishEach_of_rests (suffix : String) (dir : Path) (hs : List Header) (o : Output)
    (rests : Rests suffix o.tree (hs.map fun h => (dir.join h.path, h.content))) :
    ∃ log, publishEach suffix dir o hs =
      (.ok (), { o with unchanged := o.unchanged ++ hs.map fun h => dir.join h.path, log }) := by
  induction hs generalizing o with
  | nil => exact ⟨o.log, by rw [List.map_nil, List.append_nil]; rfl⟩
  | cons h hs ih =>
    rw [List.map_cons, Rests, List.forall_mem_cons] at rests
    have same := FileTree.publish_of_settled rests.1.1 rests.1.2
    obtain ⟨log, rest⟩ := ih (o.record o.tree (dir.join h.path) .unchanged) rests.2
    refine ⟨log, ?_⟩
    rw [publishEach, same]
    dsimp only
    rw [rest, record, List.map_cons, List.append_assoc, List.singleton_append]

theorem publishAll_of_rests (suffix : String) (dir : Path) (hs : List Header) (o : Output)
    (rests : Rests suffix o.tree (filesIn dir hs)) :
    ∃ log, publishAll suffix dir o hs =
      (.ok (), { o with unchanged := o.unchanged ++ (filesIn dir hs).map (·.1), log }) := by
  obtain ⟨log, all⟩ := publishEach_of_rests suffix dir _ o rests
  rw [filesIn, List.map_map]
  exact ⟨log, all⟩

/-! ## Directories in the way -/

/-- Whether files are settled, and no file is under their temporary names. -/
def Quiet (suffix : String) (tree : FileTree) (files : List (Path × String)) : Prop :=
  ∀ f ∈ files, Settled suffix tree f.1 f.2 ∧
    ∀ bytes, tree.entry? (tree.goal (temporary suffix f.1)) ≠ some (.file bytes)

/-- The fault of a file whose temporary name is that of a directory. -/
def Blocks (suffix : String) (tree : FileTree) (files : List (Path × String)) (fault : Fault) :
    Prop :=
  ∃ f ∈ files, tree.entry? (tree.goal (temporary suffix f.1)) = some .directory ∧
    fault = FileTree.fileFault (temporary suffix f.1) .isDirectory

theorem Blocks.mono {suffix : String} {tree : FileTree} {files others : List (Path × String)}
    {fault : Fault} (blocks : Blocks suffix tree files fault) (among : files ⊆ others) :
    Blocks suffix tree others fault := by
  obtain ⟨f, member, rest⟩ := blocks
  exact ⟨f, among member, rest⟩

theorem Quiet.rests {suffix : String} {tree : FileTree} {files : List (Path × String)}
    (quiet : Quiet suffix tree files)
    (usable : ∀ f ∈ files, tree.entry? (tree.goal (temporary suffix f.1)) ≠ some .directory) :
    Rests suffix tree files := by
  intro f member
  obtain ⟨settled, clear⟩ := quiet f member
  refine ⟨settled, ?_⟩
  cases there : tree.entry? (tree.goal (temporary suffix f.1)) with
  | none => rfl
  | some entry =>
    cases entry with
    | directory => exact absurd there (usable f member)
    | file bytes => exact absurd there (clear bytes)

theorem publishEach_of_quiet (suffix : String) (dir : Path) (hs : List Header) (o : Output)
    (quiet : Quiet suffix o.tree (hs.map fun h => (dir.join h.path, h.content)))
    (restless : ¬Rests suffix o.tree (hs.map fun h => (dir.join h.path, h.content))) :
    ∃ fault later, publishEach suffix dir o hs = (.error fault, later) ∧
      Blocks suffix o.tree (hs.map fun h => (dir.join h.path, h.content)) fault := by
  induction hs generalizing o with
  | nil => exact absurd (by simp [Rests]) restless
  | cons h hs ih =>
    rw [List.map_cons] at quiet restless ⊢
    obtain ⟨⟨settled, clear⟩, others⟩ := List.forall_mem_cons.mp quiet
    by_cases blocked :
        o.tree.entry? (o.tree.goal (temporary suffix (dir.join h.path))) = some .directory
    · refine ⟨_, { o with tree := o.tree }, ?_, _, List.mem_cons_self, blocked, rfl⟩
      rw [publishEach, FileTree.publish_of_blocked settled blocked]
    · have rests : Rests suffix o.tree [(dir.join h.path, h.content)] :=
        Quiet.rests (List.forall_mem_singleton.mpr ⟨settled, clear⟩)
          (List.forall_mem_singleton.mpr blocked)
      obtain ⟨_, vacant⟩ := List.forall_mem_singleton.mp rests
      have rest : ¬Rests suffix o.tree (hs.map fun h => (dir.join h.path, h.content)) :=
        fun all => restless (List.forall_mem_cons.mpr ⟨⟨settled, vacant⟩, all⟩)
      obtain ⟨fault, later, stopped, blocks⟩ :=
        ih (o.record o.tree (dir.join h.path) .unchanged) others rest
      refine ⟨fault, later, ?_, blocks.mono (List.subset_cons_self _ _)⟩
      rw [publishEach, FileTree.publish_of_settled settled vacant]
      exact stopped

/-- A file that is not at rest stops publishing. -/
theorem publishAll_of_quiet (suffix : String) (dir : Path) (hs : List Header) (o : Output)
    (quiet : Quiet suffix o.tree (filesIn dir hs))
    (restless : ¬Rests suffix o.tree (filesIn dir hs)) :
    ∃ fault later, publishAll suffix dir o hs = (.error fault, later) ∧
      Blocks suffix o.tree (filesIn dir hs) fault :=
  publishEach_of_quiet suffix dir _ o quiet restless

end Output
end ShaderVariants
