import ShaderVariants.Build.Intake
import ShaderVariants.Proofs.Requests

/-!
What description files do to a catalog. Whatever the files hold, intake only makes requests, and
it records one failure for each file that fails: one that cannot be read or makes no sense, one
whose structures are refused, or one whose interfaces or shader are.
-/

namespace ShaderVariants.Intake
open Catalog

/-! ## Files that fail -/

def unread (tree : FileTree) (paths : List Path) : List Path :=
  paths.filter fun path =>
    match Description.ofFile tree path with
    | .error _ => true
    | .ok _ => false

def unregistered : Intake → List SourceFile → List Path
  | _, [] => []
  | i, file :: files =>
      match i.addStructures file.description.structures with
      | (.error fault, i) => file.path :: unregistered (i.failAt file.path fault) files
      | (.ok (), i) => unregistered i files

/-- The files whose interfaces or whose shader are refused. -/
def unbuilt : Intake → List SourceFile → List Path
  | _, [] => []
  | i, file :: files =>
      match (i.addDescription file.description).1.1 with
      | .error _ => file.path :: unbuilt (i.process file) files
      | .ok () => unbuilt (i.process file) files

def failedFiles (tree : FileTree) (i : Intake) (paths : List Path) : List Path :=
  let (files, read) := read tree i paths
  let (kept, registered) := register read files
  unread tree paths ++ unregistered read files ++ unbuilt registered kept

/-! ## Reading -/

theorem fail_failures (i : Intake) (message : String) :
    (i.fail message).catalog.failures.length = i.catalog.failures.length + 1 := by
  simp [fail, addFailure]

theorem read_reaches (tree : FileTree) (paths : List Path) (i : Intake) :
    i.catalog.Reaches (read tree i paths).2.catalog := by
  induction paths generalizing i with
  | nil => exact .refl _
  | cons path paths ih =>
    rw [read]
    split
    · exact (Reaches.failure _ _).trans (ih _)
    · exact ih i

theorem read_failures (tree : FileTree) (paths : List Path) (i : Intake) :
    (read tree i paths).2.catalog.failures.length =
      i.catalog.failures.length + (unread tree paths).length := by
  induction paths generalizing i with
  | nil => rfl
  | cons path paths ih =>
    cases opened : Description.ofFile tree path with
    | error fault =>
      have rest := ih (i.fail fault.message)
      rw [fail_failures, unread] at rest
      simp only [read, unread, List.filter_cons, opened, if_true, List.length_cons]
      omega
    | ok description =>
      simp only [read, unread, List.filter_cons, opened, Bool.false_eq_true, if_false]
      exact ih i

/-! ## Structures -/

theorem addStructures_reaches (i : Intake) (ds : List Description.Structure) :
    i.catalog.Reaches (i.addStructures ds).2.catalog := by
  unfold addStructures
  split
  · exact .refl _
  case h_2 types structures _ =>
    have served := Reaches.structures i.catalog structures
    split
    case h_1 answer => rwa [answer] at served
    case h_2 answer => rwa [answer] at served

theorem addStructures_failures (i : Intake) (ds : List Description.Structure) :
    (i.addStructures ds).2.catalog.failures = i.catalog.failures := by
  unfold addStructures
  split
  · rfl
  case h_2 types structures _ =>
    have same := offerStructures_failures i.catalog structures
    split
    case h_1 answer => rwa [answer] at same
    case h_2 answer => rwa [answer] at same

theorem register_reaches (files : List SourceFile) (i : Intake) :
    i.catalog.Reaches (register i files).2.catalog := by
  induction files generalizing i with
  | nil => exact .refl _
  | cons file files ih =>
    have served := addStructures_reaches i file.description.structures
    rw [register]
    split
    case h_1 answer =>
      rw [answer] at served
      exact (served.trans (.failure _ _)).trans (ih _)
    case h_2 answer =>
      rw [answer] at served
      exact served.trans (ih _)

theorem register_failures (files : List SourceFile) (i : Intake) :
    (register i files).2.catalog.failures.length =
      i.catalog.failures.length + (unregistered i files).length := by
  induction files generalizing i with
  | nil => rfl
  | cons file files ih =>
    have same := addStructures_failures i file.description.structures
    rw [register, unregistered]
    revert same
    obtain ⟨result, next⟩ := i.addStructures file.description.structures
    intro same
    cases result with
    | error fault =>
      dsimp only at same ⊢
      rw [ih, failAt, fail_failures, same, List.length_cons]
      omega
    | ok _ =>
      dsimp only at same ⊢
      rw [← same]
      exact ih next

/-! ## Interfaces and shaders -/

theorem offer_reaches (c : Catalog) (interfaces : List Interface)
    (shader : Option Description.Shader) : c.Reaches (offer c interfaces shader).1.2 := by
  cases shader with
  | none => exact Reaches.description c interfaces none (by simp)
  | some d =>
    unfold offer
    dsimp only
    split
    · exact .refl c
    case h_2 s built =>
      have served : c.Reaches (c.offerDescription interfaces (some s)).2 := by
        apply Reaches.description
        rintro _ ⟨⟩
        exact Or.inr ⟨d, built⟩
      split
      case h_1 answer => rwa [answer] at served
      case h_2 answer => rwa [answer] at served

theorem offer_failures (c : Catalog) (interfaces : List Interface)
    (shader : Option Description.Shader) :
    (offer c interfaces shader).1.2.failures = c.failures := by
  cases shader with
  | none => exact offerDescription_failures c interfaces none
  | some d =>
    unfold offer
    dsimp only
    split
    · rfl
    case h_2 s built =>
      have same := offerDescription_failures c interfaces (some s)
      split
      case h_1 answer => rwa [answer] at same
      case h_2 answer => rwa [answer] at same

theorem addDescription_reaches (i : Intake) (d : Description) :
    i.catalog.Reaches (i.addDescription d).1.2 := by
  unfold addDescription
  split
  · exact .refl _
  · exact offer_reaches _ _ _

theorem addDescription_failures (i : Intake) (d : Description) :
    (i.addDescription d).1.2.failures = i.catalog.failures := by
  unfold addDescription
  split
  · rfl
  · exact offer_failures _ _ _

theorem process_reaches (i : Intake) (file : SourceFile) :
    i.catalog.Reaches (i.process file).catalog := by
  have served := addDescription_reaches i file.description
  unfold process
  dsimp only
  split
  · exact served
  · exact served.trans (.failure _ _)

theorem foldl_process_reaches (files : List SourceFile) (i : Intake) :
    i.catalog.Reaches (files.foldl process i).catalog := by
  induction files generalizing i with
  | nil => exact .refl _
  | cons file files ih => exact (process_reaches i file).trans (ih _)

theorem foldl_process_failures (files : List SourceFile) (i : Intake) :
    (files.foldl process i).catalog.failures.length =
      i.catalog.failures.length + (unbuilt i files).length := by
  induction files generalizing i with
  | nil => rfl
  | cons file files ih =>
    have same := addDescription_failures i file.description
    rw [List.foldl_cons, ih, unbuilt]
    split
    case h_1 fault refused =>
      have one : (i.process file).catalog.failures.length = i.catalog.failures.length + 1 := by
        unfold process
        dsimp only
        rw [refused]
        dsimp only
        rw [failAt, fail_failures, same]
      rw [one, List.length_cons]
      omega
    case h_2 accepted =>
      have none : (i.process file).catalog.failures = i.catalog.failures := by
        unfold process
        dsimp only
        rw [accepted]
        exact same
      rw [none]

/-! ## All files -/

theorem takeFiles_reaches (tree : FileTree) (i : Intake) (paths : List Path) :
    i.catalog.Reaches (takeFiles tree i paths).catalog :=
  ((read_reaches tree paths i).trans (register_reaches _ _)).trans (foldl_process_reaches _ _)

/-- Every file that fails leaves one failure behind, and nothing else does. -/
theorem takeFiles_failures (tree : FileTree) (i : Intake) (paths : List Path) :
    (takeFiles tree i paths).catalog.failures.length =
      i.catalog.failures.length + (failedFiles tree i paths).length := by
  simp only [takeFiles, failedFiles, foldl_process_failures, register_failures, read_failures,
    List.length_append]
  omega

end ShaderVariants.Intake
