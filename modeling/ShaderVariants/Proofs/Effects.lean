import ShaderVariants.Proofs.Goals
import ShaderVariants.Proofs.Publishing

/-!
What publishing leaves alone. Where no file has the temporary name, publishing a file changes this
file and nothing else, but for the directories that it needs and that were not there. So what was
published before at another place is still there.
-/

namespace ShaderVariants.FileTree

/-- Whether a later tree differs at most at some places, and in directories that are new. -/
structure Confined (tree later : FileTree) (places : List Place) : Prop where
  keeps : tree.Keeps later
  frame : ∀ place, place ∉ places → later.entry? place = tree.entry? place ∨
    tree.entry? place = none ∧ later.entry? place = some .directory

theorem Confined.refl (tree : FileTree) : Confined tree tree [] :=
  ⟨Keeps.refl tree, fun _ _ => Or.inl rfl⟩

theorem Confined.trans {first second third : FileTree} {places others : List Place}
    (one : Confined first second places) (two : Confined second third others) :
    Confined first third (places ++ others) := by
  refine ⟨one.keeps.trans two.keeps, fun place outside => ?_⟩
  rw [List.mem_append, not_or] at outside
  rcases two.frame place outside.2 with same | ⟨free, made⟩
  · rw [same]
    exact one.frame place outside.1
  · rcases one.frame place outside.1 with same | ⟨_, earlier⟩
    · exact Or.inr ⟨same ▸ free, made⟩
    · rw [free] at earlier
      cases earlier

theorem Confined.mono {tree later : FileTree} {places others : List Place}
    (confined : Confined tree later places) (among : places ⊆ others) :
    Confined tree later others :=
  ⟨confined.keeps, fun place outside => confined.frame place fun inside => outside (among inside)⟩

theorem Confined.readFile {tree later : FileTree} {places : List Place}
    (confined : Confined tree later places) {path : Path} {bytes : ByteArray}
    (read : tree.readFile path = .ok bytes) (outside : tree.goal path ∉ places) :
    later.readFile path = .ok bytes := by
  obtain ⟨place, leads, there⟩ := (readFile_iff tree path bytes).mp read
  cases leads.goal
  refine (readFile_iff later path bytes).mpr ⟨tree.goal path, leads.kept confined.keeps, ?_⟩
  rcases confined.frame _ outside with same | ⟨free, _⟩
  · rw [same, there]
  · rw [there] at free
    cases free

theorem Confined.free {tree later : FileTree} {places : List Place}
    (confined : Confined tree later places) {place : Place}
    (free : ∀ bytes, tree.entry? place ≠ some (.file bytes)) (outside : place ∉ places)
    (bytes : ByteArray) : later.entry? place ≠ some (.file bytes) := by
  rcases confined.frame place outside with same | ⟨_, made⟩
  · rw [same]
    exact free bytes
  · rw [made]
    exact fun file => Entry.noConfusion (Option.some.inj file)

/-! ## Making directories -/

theorem makeDirectory_confined {tree later : FileTree} {path : Path}
    (success : tree.makeDirectory path = .ok later) : Confined tree later [] := by
  unfold makeDirectory at success
  obtain ⟨slot, _, rest⟩ := bind_eq_ok.mp success
  split at rest
  · cases rest
  · obtain ⟨_, _, rest⟩ := bind_eq_ok.mp rest
    split at rest
    · cases rest
    case h_2 free =>
      cases rest
      have below : slot.place ≠ [] := by simp [Slot.place]
      have apart (place : Place) (different : place ≠ slot.place) :=
        entry?_put_of_ne tree .directory different
      refine ⟨⟨fun place found => ?_, rfl⟩, fun place _ => ?_⟩
      · rwa [apart place (fun same => by rw [same, free] at found; cases found)]
      · by_cases here : place = slot.place
        · rw [here]
          exact Or.inr ⟨free, entry?_put_self tree .directory below⟩
        · exact Or.inl (apart place here)

theorem settle_confined {tree later : FileTree} {path : Path}
    (success : tree.settle path (tree.makeDirectory path) = .ok later) :
    Confined tree later [] := by
  unfold settle at success
  split at success
  · split at success
    · cases success
      exact Confined.refl tree
    · cases success
  · exact makeDirectory_confined success

theorem makeMissing_confined (left : Nat) (tree : FileTree) (path : Path) :
    Confined tree (makeMissing left tree path).2 [] := by
  induction left generalizing path with
  | zero => exact Confined.refl tree
  | succ left ih =>
    rw [makeMissing]
    split
    · exact Confined.refl tree
    case h_2 parent _ =>
      split
      case h_1 later settled => exact settle_confined settled
      case h_2 =>
        have above := ih parent
        split
        case h_1 made => rwa [made] at above
        case h_2 middle made =>
          rw [made] at above
          split
          case h_1 later settled => exact above.trans (settle_confined settled)
          case h_2 => exact above
      case h_3 => exact Confined.refl tree

theorem makeParent_confined (tree : FileTree) (target : Path) :
    Confined tree (tree.makeParent target).2 [] := by
  unfold makeParent
  split
  · exact Confined.refl tree
  · exact makeMissing_confined _ tree _

/-! ## Publishing -/

theorem goal_temporary (tree : FileTree) (suffix : String) {target : Path} {name : String}
    (ends : target.EndsIn name) : tree.goal (temporary suffix target) =
      (tree.goal target).dropLast ++ [s!".{name}{suffix}"] := by
  obtain ⟨parent, above, same⟩ := tree.goal_parent ends
  have joined : temporary suffix target = parent.join (.single s!".{name}{suffix}") := by
    simp only [temporary, Path.withFileName, ends.fileName?, above]
    rfl
  rw [joined, goal_join_single, step_of_isName _ (hidden_isName ends.plain suffix), same,
    List.dropLast_concat]

theorem put_confined (tree : FileTree) {place : Place} (bytes : ByteArray)
    (free : tree.entry? place ≠ some .directory) :
    Confined tree (tree.put place (.file bytes)) [place] :=
  ⟨keeps_put tree bytes free, fun _ outside =>
    Or.inl (entry?_put_of_ne tree _ fun here => outside (List.mem_singleton.mpr here))⟩

theorem drop_confined (tree : FileTree) {place : Place}
    (free : tree.entry? place ≠ some .directory) : Confined tree (tree.drop place) [place] :=
  ⟨keeps_drop tree free, fun _ outside =>
    Or.inl (entry?_drop_of_ne tree fun here => outside (List.mem_singleton.mpr here))⟩

/-- However it ends, replacing a target changes at most the temporary file and the target. -/
theorem replace_confined (staged : FileTree) (temp target : Path) :
    Confined staged (staged.replace temp target).2
      [staged.goal temp, staged.goal target] := by
  have still : Confined staged staged [staged.goal temp, staged.goal target] :=
    (Confined.refl staged).mono (by simp)
  unfold replace
  split
  · exact still
  · exact still
  · split
    · exact still
    · rw [transfer_eq]
      cases moved : staged.renameFile temp target with
      | error => exact still
      | ok later =>
        obtain ⟨place, goal, content, leads, there, writable, rfl⟩ :=
          (renameFile_iff staged later temp target).mp moved
        obtain ⟨_, leads', free⟩ := (filePlace_iff staged target goal).mp writable
        cases leads.goal
        cases leads'.goal
        exact (drop_confined staged (by simp [there])).trans
          (put_confined _ content fun found => free (drop_directory staged found))

/-- A temporary file is dropped, so if none was there before, its place is not among those that
differ. -/
theorem Confined.discard {tree later : FileTree} {temp : Path} {places : List Place}
    (confined : Confined tree later (tree.goal temp :: places))
    (leads : tree.Leads temp (tree.goal temp)) (below : tree.goal temp ≠ [])
    (free : tree.entry? (tree.goal temp) = none) :
    Confined tree (later.discard temp) places := by
  have same := confined.keeps.goal temp
  have kept := alike_discard later temp
  refine ⟨confined.keeps.trans kept.keeps, fun place outside => ?_⟩
  by_cases here : place = tree.goal temp
  · subst here
    cases there : later.entry? (tree.goal temp) with
    | none =>
      rcases discard_cases later temp with still | ⟨_, _, leads', there', _⟩
      · rw [still, there, free]
        exact Or.inl rfl
      · cases leads'.goal
        rw [same, there] at there'
        cases there'
    | some entry =>
      cases entry with
      | directory => exact Or.inr ⟨free, kept.keeps.directories _ there⟩
      | file bytes =>
        rw [discard_of_leads (leads.kept confined.keeps) there, entry?_drop_self later below, free]
        exact Or.inl rfl
  · rw [entry?_discard_of_ne later (same ▸ here)]
    exact confined.frame place (by simp [here, outside])

/-- Where no file has the temporary name, publishing changes at most the target, however it ends. -/
theorem publish_confined {suffix : String} {tree : FileTree} {target : Path}
    (free : ∀ bytes, tree.entry? (tree.goal (temporary suffix target)) ≠ some (.file bytes))
    (content : String) :
    Confined tree (tree.publish suffix target content).2 [tree.goal target] := by
  have parent := makeParent_confined tree target
  unfold publish
  cases made : tree.makeParent target with
  | mk result before =>
    rw [made] at parent
    dsimp only at parent
    have free' := parent.free free List.not_mem_nil
    rw [← parent.keeps.goal] at free'
    cases result with
    | error fault => exact parent.mono (by simp)
    | ok _ =>
      dsimp only
      cases written : before.writeFile (temporary suffix target) content.toUTF8 with
      | error e =>
        rcases discard_cases before (temporary suffix target) with
          still | ⟨place, bytes, leads, there, _⟩
        · dsimp only
          rw [still]
          exact parent.mono (by simp)
        · cases leads.goal
          exact absurd there (free' bytes)
      | ok staged =>
        obtain ⟨place, staging, rfl⟩ := (writeFile_iff before staged _ _).mp written
        obtain ⟨_, leads, vacant⟩ := (filePlace_iff before _ place).mp staging
        cases leads.goal
        have unused : before.entry? (before.goal (temporary suffix target)) = none := by
          cases there : before.entry? (before.goal (temporary suffix target)) with
          | none => rfl
          | some entry =>
            cases entry with
            | directory => exact absurd there vacant
            | file bytes => exact absurd there (free' bytes)
        have put := put_confined before content.toUTF8 vacant
        have replaced := replace_confined (before.put (before.goal (temporary suffix target))
          (.file content.toUTF8)) (temporary suffix target) target
        rw [put.keeps.goal, put.keeps.goal] at replaced
        have whole := ((put.trans replaced).mono (List.cons_subset.mpr
          ⟨List.mem_cons_self, List.Subset.refl _⟩)).discard leads (filePlace_ne_nil staging) unused
        rw [parent.keeps.goal target] at whole
        exact parent.trans whole

end ShaderVariants.FileTree
