import Mathlib.Data.List.Nodup
import ShaderVariants.Build.Source
import ShaderVariants.Proofs.Goals
import ShaderVariants.Proofs.Publishing

/-!
The description files of a directory. They are the regular files directly in it whose names end in
`.json`, each listed once and in the order of their paths.
-/

namespace ShaderVariants

namespace FileTree

/-- Whether a path is that of a description file in a directory. -/
structure Describes (tree : FileTree) (dir path : Path) : Prop where
  inside : ∃ name, Path.IsName name ∧ path = dir.join (.single name)
  regular : tree.isFile path = true
  ending : path.extension? = some descriptionEnding

/-! ## Listing -/

private theorem nodup_eraseDups (names : List String) : names.eraseDups.Nodup := by
  match names with
  | [] => exact List.nodup_nil
  | name :: names =>
    rw [List.eraseDups_cons, List.nodup_cons]
    refine ⟨by simp [List.mem_eraseDups], nodup_eraseDups _⟩
  termination_by names.length
  decreasing_by exact Nat.lt_succ_of_le (List.length_filter_le _ _)

theorem isFile_iff (tree : FileTree) (path : Path) :
    tree.isFile path = true ↔ ∃ bytes, tree.Leads path (tree.goal path) ∧
      tree.entry? (tree.goal path) = some (.file bytes) := by
  unfold isFile
  split
  case h_1 place bytes located =>
    obtain ⟨leads, there⟩ := (find_iff tree path place _).mp located
    cases leads.goal
    exact iff_of_true rfl ⟨bytes, leads, there⟩
  case h_2 other =>
    simp only [Bool.false_eq_true, false_iff]
    rintro ⟨bytes, leads, there⟩
    exact other _ bytes ((find_iff tree path _ _).mpr ⟨leads, there⟩)

theorem list_eq_ok (tree : FileTree) (dir : Path) (names : List String)
    (success : tree.list dir = .ok names) : names.Nodup ∧
      tree.entry? (tree.goal dir) = some .directory ∧
      ∀ name, name ∈ names ↔ ∃ entry, (tree.goal dir ++ [name], entry) ∈ tree.entries := by
  unfold list at success
  obtain ⟨⟨place, entry⟩, located, listed⟩ := bind_eq_ok.mp success
  obtain ⟨leads, there⟩ := (find_iff tree dir place entry).mp located
  cases leads.goal
  cases entry with
  | file bytes => cases listed
  | directory =>
    cases listed
    refine ⟨nodup_eraseDups _, there, fun name => ?_⟩
    rw [List.mem_eraseDups, List.mem_filterMap]
    constructor
    · rintro ⟨⟨place, entry⟩, member, named⟩
      dsimp only at named
      split at named
      case isTrue here =>
        obtain ⟨directory, rfl⟩ := List.getLast?_eq_some_iff.mp named
        rw [List.dropLast_concat] at here
        exact ⟨entry, here ▸ member⟩
      · cases named
    · rintro ⟨entry, member⟩
      exact ⟨_, member, by simp⟩

theorem describes_of_listed {tree : FileTree} {dir : Path}
    (there : tree.entry? (tree.goal dir) = some .directory) {name : String}
    (regular : tree.isFile (dir.join (.single name)) = true)
    (ending : (dir.join (.single name)).extension? = some descriptionEnding) :
    tree.Describes dir (dir.join (.single name)) := by
  have plain : Path.IsName name := by
    constructor
    · by_contra filler
      obtain ⟨bytes, _, content⟩ := (isFile_iff tree _).mp regular
      rw [goal_join_single, Place.step, if_pos (by simpa using filler), there] at content
      cases content
    · rintro rfl
      obtain ⟨before, pieces, _⟩ := dir.join_single_pieces ".."
      rw [Path.extension?_up (by rw [pieces, List.getLast?_concat])] at ending
      cases ending
  exact ⟨⟨name, plain, rfl⟩, regular, ending⟩

theorem descriptionFiles_eq_ok {tree : FileTree} {dir : Path} {paths : List Path}
    (success : tree.descriptionFiles dir = .ok paths) :
    (∀ path, path ∈ paths ↔ tree.Describes dir path) ∧ paths.Nodup ∧
      paths.Pairwise (Path.le · · = true) := by
  unfold descriptionFiles at success
  obtain ⟨names, listed, made⟩ := bind_eq_ok.mp success
  cases made
  obtain ⟨distinct, there, members⟩ := list_eq_ok tree dir names listed
  refine ⟨fun path => ?_, ?_, Path.pairwise_mergeSort_le _⟩
  · rw [List.mem_mergeSort, List.mem_filter, List.mem_map, Bool.and_eq_true, beq_iff_eq]
    constructor
    · rintro ⟨⟨name, _, rfl⟩, regular, ending⟩
      exact describes_of_listed there regular ending
    · rintro ⟨⟨name, plain, rfl⟩, regular, ending⟩
      refine ⟨⟨name, ?_, rfl⟩, regular, ending⟩
      obtain ⟨bytes, _, content⟩ := (isFile_iff tree _).mp regular
      rw [goal_join_single, step_of_isName _ plain, entry?_of_ne_nil _ (by simp),
        List.lookup_eq_some_iff] at content
      obtain ⟨before, after, shape, _⟩ := content
      exact (members name).mpr ⟨.file bytes, by rw [shape]; simp⟩
  · rw [(List.mergeSort_perm _ _).nodup_iff]
    apply List.Nodup.filter
    refine distinct.map fun name other same => ?_
    obtain ⟨before, pieces, _⟩ := dir.join_single_pieces name
    obtain ⟨before', pieces', _⟩ := dir.join_single_pieces other
    have last := congrArg List.getLast? (pieces.symm.trans (same ▸ pieces'))
    simpa using last

end FileTree

namespace Description

theorem ofFile_eq {tree : FileTree} {path : Path} {text : String}
    (read : tree.readFile path = .ok text.toUTF8) :
    ofFile tree path = (ofText text).mapError (.malformed path.text) := by
  have valid : String.fromUTF8? text.toUTF8 = some text := by
    simp only [String.fromUTF8?, Option.dite_none_right_eq_some, Option.some.injEq]
    exact ⟨text.isValidUTF8, rfl⟩
  simp only [ofFile, FileTree.readText, read, valid, bind, Except.bind, pure, Except.pure]

/-! ## Files at the root -/

variable {tree : FileTree} {name : String} (plain : Path.IsName name)
  (clean : '\x00' ∉ name.toList) (short : name.utf8ByteSize ≤ FileTree.maxName)
include plain clean short

theorem ofFile_rooted {text : String} (there : tree.entry? [name] = some (.file text.toUTF8)) :
    ofFile tree ⟨["", name]⟩ = (ofText text).mapError (.malformed (Path.mk ["", name]).text) :=
  ofFile_eq ((FileTree.readFile_iff tree _ _).mpr
    ⟨[name], FileTree.leads_rooted tree plain clean short, there⟩)

theorem ofFile_missing (there : tree.entry? [name] = none) :
    ofFile tree ⟨["", name]⟩ = .error (.file (Path.mk ["", name]).text .notFound) := by
  obtain ⟨origin, pieces, started, walked⟩ := FileTree.leads_rooted tree plain clean short
  simp only [ofFile, FileTree.readText, FileTree.readFile, FileTree.find, started, walked, there,
    bind, Except.bind]

end Description
end ShaderVariants
