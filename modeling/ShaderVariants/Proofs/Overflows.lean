import ShaderVariants.Proofs.Alignment
import ShaderVariants.Proofs.Refusals

/-!
Where taking in files overflows. Every layout that a description lists is filled up in machine words
once its turn comes: those of structures when their file is registered, and those of interfaces when
their file is described, unless something before them is refused. An intake overflows exactly where
one of these layouts is too large.
-/

namespace ShaderVariants.Intake
open Layout (wordLimit)

/-- The layouts that are filled up when the files at some paths are taken. A structure is made in
the scope that the files and the structures before it leave, an interface in the scope that is left
by all files, and after the interfaces before it. -/
inductive Computes (tree : FileTree) (start : Intake) (paths : List Path) : Layout → Prop
  | shared {before after : List SourceFile} {file : SourceFile}
      {done later : List Description.Structure} {d : Description.Structure} {types : TypeScope}
      {structures : List SharedStructure} {layout : Layout}
      (read : (read tree start paths).1 = before ++ file :: after)
      (split : file.description.structures = done ++ d :: later)
      (staged : stage (register (Intake.read tree start paths).2 before).2.types done =
        .ok (types, structures))
      (made : SharedStructure.fieldsOf types d = .ok layout) : Computes tree start paths layout
  | interface {file : SourceFile} {done later : List Description.Interface}
      {d : Description.Interface} {i : Interface}
      (kept : file ∈ (register (read tree start paths).2 (read tree start paths).1).1)
      (split : file.description.interfaces = done ++ d :: later)
      (before : ∀ e ∈ done, ∃ i, Interface.ofDescription
        (register (read tree start paths).2 (read tree start paths).1).2.types e = .ok i)
      (made : Interface.itemsOf
        (register (read tree start paths).2 (read tree start paths).1).2.types d = .ok i) :
      Computes tree start paths i.layout

/-! ## Sizes in scopes -/

theorem Registers.words {types : TypeScope} {ds : List Description.Structure}
    {structures : List SharedStructure} (registers : Registers types ds structures) :
    ∀ s ∈ structures, s.byteSize < wordLimit := by
  induction registers with
  | nil types => exact nofun
  | @cons types d s ds rest made _ _ _ ih =>
    rw [List.forall_mem_cons]
    refine ⟨?_, ih⟩
    simp only [SharedStructure.ofDescription, bind_eq_ok] at made
    obtain ⟨layout, _, padded, filled, whole⟩ := made
    cases whole
    exact Layout.padChecked_word filled

/-- Every size that a registration records is a machine word, as is each term of later sums. -/
theorem register_words (files : List SourceFile) (i : Intake)
    (before : ∀ e ∈ i.types.structures, e.2 < wordLimit) :
    ∀ e ∈ (register i files).2.types.structures, e.2 < wordLimit := by
  obtain ⟨ds, structures, registers, types, _⟩ := register_registers files i
  rw [types, TypeScope.extend, List.forall_mem_append, List.forall_mem_map]
  exact ⟨before, registers.words⟩

/-! ## One file -/

/-- Staging overflows at the first structure that is too large, unless one before it is refused. -/
theorem stage_overflow {types : TypeScope} (aligned : types.Aligned)
    (ds : List Description.Structure) : stage types ds = .error .overflow ↔
      ∃ done d later next structures layout, ds = done ++ d :: later ∧
        stage types done = .ok (next, structures) ∧
        SharedStructure.fieldsOf next d = .ok layout ∧ wordLimit ≤ layout.filledSize := by
  induction ds generalizing types with
  | nil => exact iff_of_false nofun fun ⟨done, d, later, _, _, _, split, _⟩ => by simp at split
  | cons d ds ih =>
    have here := SharedStructure.ofDescription_sizeFault aligned d .overflow
    have further {s : SharedStructure} {next : TypeScope}
        (made : SharedStructure.ofDescription types d = .ok s)
        (registered : types.register s.name s.byteSize = .ok next) : next.Aligned := by
      have size := (SharedStructure.ofDescription_aligned aligned d).2 s made
      obtain ⟨_, _, rfl⟩ := TypeScope.register_eq_ok registered
      exact aligned.extend size
    rw [stage, bind_eq_error, here]
    constructor
    · rintro (⟨_, layout, made, large⟩ | ⟨s, made, rest⟩)
      · exact ⟨[], d, ds, types, [], layout, rfl, rfl, made, large⟩
      · rw [(types.register_sizeless _ _).bind_eq_error .overflow] at rest
        obtain ⟨next, registered, rest⟩ := rest
        rw [bind_eq_error, ih (further made registered)] at rest
        obtain ⟨done, e, later, last, structures, layout, rfl, staged, large⟩ | ⟨_, _, ended⟩ :=
          rest
        · refine ⟨d :: done, e, later, last, s :: structures, layout, rfl, ?_, large⟩
          simp only [stage, bind_eq_ok]
          exact ⟨s, made, _, registered, _, staged, rfl⟩
        · cases ended
    · rintro ⟨done, e, later, last, structures, layout, split, staged, made, large⟩
      cases done with
      | nil =>
        cases split
        cases staged
        exact Or.inl ⟨rfl, layout, made, large⟩
      | cons d' done =>
        cases split
        simp only [stage, bind_eq_ok] at staged
        obtain ⟨s, first, next, registered, ⟨types', rest⟩, others, whole⟩ := staged
        cases whole
        refine Or.inr ⟨s, first, bind_eq_error.mpr (Or.inr ⟨_, registered, ?_⟩)⟩
        rw [bind_eq_error, ih (further first registered)]
        exact Or.inl ⟨done, e, later, types', rest, layout, rfl, others, made, large⟩

theorem interfaces_overflow {types : TypeScope} (aligned : types.Aligned)
    (ds : List Description.Interface) :
    ds.mapM (Interface.ofDescription types) = .error .overflow ↔
      ∃ done d later i, ds = done ++ d :: later ∧
        (∀ e ∈ done, ∃ i, Interface.ofDescription types e = .ok i) ∧
        Interface.itemsOf types d = .ok i ∧ wordLimit ≤ i.layout.filledSize := by
  rw [← refusal_eq_some, refusal_mapM, List.findSome?_eq_some_iff]
  simp only [refusal_eq_some, refusal_eq_none,
    Interface.ofDescription_sizeFault aligned _ .overflow, true_and]
  constructor
  · rintro ⟨done, d, later, split, ⟨i, made, large⟩, before⟩
    exact ⟨done, d, later, i, split, before, made, large⟩
  · rintro ⟨done, d, later, i, split, before, made, large⟩
    exact ⟨done, d, later, split, ⟨i, made, large⟩, before⟩

/-! ## All files -/

theorem failAt_overflowed (i : Intake) (path : Path) (fault : Fault) :
    (i.failAt path fault).overflowed = true ↔ i.overflowed = true ∨ fault = .overflow := by
  rw [failAt, Bool.or_eq_true, decide_eq_true_iff]

theorem read_overflowed (tree : FileTree) (paths : List Path) (i : Intake) :
    (read tree i paths).2.overflowed = i.overflowed := by
  induction paths generalizing i with
  | nil => rfl
  | cons path paths ih =>
    rw [read]
    split
    · exact ih _
    · exact ih i

theorem register_overflowed (files : List SourceFile) (i : Intake) :
    (register i files).2.overflowed = true ↔ i.overflowed = true ∨
      ∃ before file after, files = before ++ file :: after ∧
        stage (register i before).2.types file.description.structures = .error .overflow := by
  induction files generalizing i with
  | nil => simp [register]
  | cons file files ih =>
    have split (P : List SourceFile → SourceFile → Prop) :
        (∃ before one after, file :: files = before ++ one :: after ∧ P before one) ↔
          P [] file ∨
            ∃ before one after, files = before ++ one :: after ∧ P (file :: before) one := by
      constructor
      · rintro ⟨before, one, after, same, holds⟩
        cases before with
        | nil =>
          cases same
          exact Or.inl holds
        | cons first before =>
          cases same
          exact Or.inr ⟨before, one, after, rfl, holds⟩
      · rintro (holds | ⟨before, one, after, same, holds⟩)
        · exact ⟨[], file, files, rfl, holds⟩
        · exact ⟨file :: before, one, after, congrArg (file :: ·) same, holds⟩
    have here := addStructures_sizeFault i file.description.structures .overflow
    rw [split]
    obtain ⟨structures, _, accepted⟩ | ⟨_, fault, refused⟩ :=
      addStructures_registers i file.description.structures
    · rw [accepted] at here
      have fits : stage i.types file.description.structures ≠ .error .overflow := by
        intro overflow
        cases here.mpr overflow
      simp only [register, accepted, ih, fits, false_or]
    · rw [refused] at here
      simp only [register, refused, ih, failAt_overflowed, ← here, Except.error.injEq, or_assoc]

theorem process_overflowed (i : Intake) (file : SourceFile) :
    (i.process file).overflowed = true ↔ i.overflowed = true ∨
      (i.addDescription file.description).1.1 = .error .overflow := by
  unfold process
  dsimp only
  split
  case h_1 accepted =>
    rw [accepted]
    exact (or_iff_left nofun).symm
  case h_2 fault refused =>
    rw [refused, failAt_overflowed, Except.error.injEq]

theorem foldl_process_overflowed (files : List SourceFile) (i : Intake) :
    (files.foldl process i).overflowed = true ↔ i.overflowed = true ∨
      ∃ file ∈ files,
        file.description.interfaces.mapM (Interface.ofDescription i.types) = .error .overflow := by
  induction files generalizing i with
  | nil => simp
  | cons file files ih =>
    have types : (i.process file).types = i.types := process_types [file] i
    rw [List.foldl_cons, ih, process_overflowed, types,
      addDescription_sizeFault i file.description .overflow, List.exists_mem_cons_iff, or_assoc]

/-- An intake overflows exactly where a layout that it fills up is too large. -/
theorem takeFiles_overflowed (tree : FileTree) (catalog : Catalog) (log : List LogLine)
    (paths : List Path) :
    (takeFiles tree (start catalog log) paths).overflowed = true ↔
      ∃ layout, Computes tree (start catalog log) paths layout ∧
        wordLimit ≤ layout.filledSize := by
  have aligned := @register_aligned (start catalog log) rfl tree paths
  have fresh : (read tree (start catalog log) paths).2.overflowed = false :=
    read_overflowed tree paths _
  rw [takeFiles, foldl_process_overflowed, register_overflowed, fresh]
  simp only [Bool.false_eq_true, false_or]
  constructor
  · rintro (⟨before, file, after, read, overflow⟩ | ⟨file, kept, overflow⟩)
    · obtain ⟨done, d, later, types, structures, layout, split, staged, made, large⟩ :=
        (stage_overflow (aligned before) _).mp overflow
      exact ⟨layout, .shared read split staged made, large⟩
    · obtain ⟨done, d, later, i, split, before, made, large⟩ :=
        (interfaces_overflow (aligned _) _).mp overflow
      exact ⟨i.layout, .interface kept split before made, large⟩
  · rintro ⟨layout, computes, large⟩
    cases computes with
    | @shared before after file done later d types structures _ read split staged made =>
      exact Or.inl ⟨before, file, after, read, (stage_overflow (aligned before) _).mpr
        ⟨done, d, later, types, structures, layout, split, staged, made, large⟩⟩
    | @interface file done later d i kept split before made =>
      exact Or.inr ⟨file, kept, (interfaces_overflow (aligned _) _).mpr
        ⟨done, d, later, i, split, before, made, large⟩⟩

/-- What is filled up and not too large has the exact size. -/
theorem Computes.fits {tree : FileTree} {catalog : Catalog} {log : List LogLine}
    {paths : List Path} {layout : Layout}
    (_computes : Computes tree (start catalog log) paths layout)
    (small : layout.filledSize < wordLimit) :
    layout.wordSize = some layout.byteSize ∧ layout.padChecked = layout.pad := by
  have start := layout.byteSize_le_filledSize.trans_lt small
  exact ⟨by rw [Layout.wordSize_eq, if_pos start], Layout.padChecked_of_fits small⟩

end ShaderVariants.Intake
