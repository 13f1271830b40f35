import ShaderVariants.Proofs.Effects

/-!
Publishing a second time. Once a target is published it is settled: the directories on its way
stand, it holds its text, and there is nothing under its temporary name, which can be written to.
To publish the same text again leaves the whole tree as it is.
-/

namespace ShaderVariants.FileTree

/-! ## Directories that stand -/

/-- Whether there is a directory at the end of a path, or nothing above it that could be made. -/
def Standing (tree : FileTree) (dir : Path) : Prop :=
  dir.parent? = none ∨ ∃ place, tree.Leads dir place ∧ tree.entry? place = some .directory

theorem Standing.kept {tree later : FileTree} {dir : Path} (stands : tree.Standing dir)
    (keeps : tree.Keeps later) : later.Standing dir := by
  refine stands.imp id ?_
  rintro ⟨place, leads, there⟩
  exact ⟨place, leads.kept keeps, keeps.directories place there⟩

theorem Standing.makeDirectories {tree : FileTree} {dir : Path} (stands : tree.Standing dir) :
    tree.makeDirectories dir = (.ok (), tree) := by
  rcases stands with top | ⟨place, leads, there⟩
  · rw [FileTree.makeDirectories]
    cases dir.pieces.length with
    | zero => rfl
    | succ left => rw [makeMissing, top]
  · exact makeDirectories_of_leads leads there

theorem walk_fillers (tree : FileTree) {place : Place} (there : tree.entry? place = some .directory)
    (pieces : List String) (fillers : ∀ f ∈ pieces, Path.isFiller f = true) :
    tree.walk place pieces = .ok place := by
  induction pieces with
  | nil => rfl
  | cons piece rest ih =>
    rw [List.forall_mem_cons] at fillers
    simp only [walk, bind, Except.bind, (checkDirectory_iff tree place).mpr there, fillers.1, if_true]
    exact ih fillers.2

theorem slot_of_isName {tree : FileTree} {path : Path} {slot : Slot}
    (slotted : tree.slot path = .ok slot) (named : slot.isName = true) :
    Path.IsName slot.name ∧ ∃ origin before slashes,
      tree.start path = .ok (origin, before ++ slot.name :: slashes) ∧
      tree.walk origin before = .ok slot.directory ∧
      tree.entry? slot.directory = some .directory ∧ ∀ f ∈ slashes, Path.isFiller f = true := by
  have plain : Path.isFiller slot.name = false ∧ slot.name ≠ ".." := by
    simpa [Slot.isName] using named
  refine ⟨⟨plain.1, plain.2⟩, ?_⟩
  unfold FileTree.slot at slotted
  obtain ⟨⟨origin, pieces⟩, started, slotted⟩ := bind_eq_ok.mp slotted
  dsimp only at slotted
  split at slotted
  · cases slotted
    cases named
  case h_2 name before shape =>
    obtain ⟨directory, walked, slotted⟩ := bind_eq_ok.mp slotted
    obtain ⟨_, checked, slotted⟩ := bind_eq_ok.mp slotted
    cases slotted
    obtain ⟨slashes, rfl, fillers⟩ := eq_append_slashes shape
    exact ⟨origin, before.reverse, slashes, started, walked,
      (checkDirectory_iff tree directory).mp checked, fillers⟩

theorem makeDirectory_leads {tree later : FileTree} {path : Path}
    (success : tree.makeDirectory path = .ok later) :
    ∃ place, later.Leads path place ∧ later.entry? place = some .directory := by
  have keeps := (makeDirectory_confined success).keeps
  unfold makeDirectory at success
  obtain ⟨slot, slotted, rest⟩ := bind_eq_ok.mp success
  split at rest
  · cases rest
  case isFalse unnamed =>
    obtain ⟨_, fits, rest⟩ := bind_eq_ok.mp rest
    split at rest
    · cases rest
    case h_2 free =>
      cases rest
      obtain ⟨plain, origin, before, slashes, started, walked, there, fillers⟩ :=
        slot_of_isName slotted (by simpa using unnamed)
      have below : slot.place ≠ [] := by simp [Slot.place]
      have made := entry?_put_self tree .directory below
      refine ⟨slot.place, ⟨origin, _, (keeps.start path).trans started, ?_⟩, made⟩
      have checked := (checkDirectory_iff _ _).mpr (keeps.directories _ there)
      have last : (tree.put slot.place .directory).walk slot.directory [slot.name] =
          .ok slot.place := by
        rw [walk_singleton _ _ plain, checked, fits]
        rfl
      rw [← List.singleton_append, walk_append, keeps.walk _ _ _ walked, Except.bind, walk_append,
        last]
      exact walk_fillers _ made slashes fillers

theorem settle_leads {tree later : FileTree} {path : Path}
    (success : tree.settle path (tree.makeDirectory path) = .ok later) :
    ∃ place, later.Leads path place ∧ later.entry? place = some .directory := by
  unfold settle at success
  split at success
  · split at success
    case isTrue found =>
      cases success
      unfold isDirectory at found
      split at found
      case h_1 place located => exact ⟨place, (find_iff tree path place _).mp located⟩
      · cases found
    · cases success
  · exact makeDirectory_leads success

theorem makeDirectories_stands {tree later : FileTree} {dir : Path}
    (success : tree.makeDirectories dir = (.ok (), later)) : later.Standing dir := by
  unfold makeDirectories at success
  cases count : dir.pieces.length with
  | zero =>
    have bare : dir.pieces = [] := List.length_eq_zero_iff.mp count
    left
    simp [Path.parent?, Path.anchored, bare, Path.dropLastFillers]
  | succ left =>
    rw [count, makeMissing] at success
    split at success
    case h_1 top => exact Or.inl top
    case h_2 =>
      right
      split at success
      case h_1 settled =>
        cases success
        exact settle_leads settled
      case h_2 =>
        split at success
        · cases success
        · split at success
          case h_1 settled =>
            cases success
            exact settle_leads settled
          · cases success
      · cases success

theorem makeParent_stands {tree later : FileTree} {target : Path}
    (success : tree.makeParent target = (.ok (), later)) (parent : Path)
    (above : target.parent? = some parent) : later.Standing parent := by
  simp only [makeParent, above] at success
  cases made : tree.makeDirectories parent with
  | mk result before =>
    rw [made] at success
    cases result with
    | error e => cases success
    | ok _ =>
      cases success
      exact makeDirectories_stands made

/-! ## Targets that are settled -/

/-- Whether a target holds a text, and publishing it again needs no directory that is missing. -/
structure Settled (suffix : String) (tree : FileTree) (target : Path) (content : String) : Prop where
  named : ∃ name, target.EndsIn name
  parent : ∀ parent, target.parent? = some parent → tree.Standing parent
  content : tree.readFile target = .ok content.toUTF8
  staging : tree.Leads (temporary suffix target) (tree.goal (temporary suffix target))

/-- What is published elsewhere leaves a target settled. -/
theorem Settled.kept {suffix : String} {tree later : FileTree} {target : Path} {content : String}
    (settled : Settled suffix tree target content) {places : List Place}
    (confined : Confined tree later places) (outside : tree.goal target ∉ places) :
    Settled suffix later target content where
  named := settled.named
  parent parent above := (settled.parent parent above).kept confined.keeps
  content := confined.readFile settled.content outside
  staging := by
    rw [confined.keeps.goal]
    exact settled.staging.kept confined.keeps

theorem Settled.makeParent {suffix : String} {tree : FileTree} {target : Path} {content : String}
    (settled : Settled suffix tree target content) :
    tree.makeParent target = (.ok (), tree) := by
  unfold FileTree.makeParent
  split
  · rfl
  case h_2 parent above =>
    rw [(settled.parent parent above).makeDirectories]
    rfl

theorem drop_put (tree : FileTree) {place : Place} (entry : Entry) (below : place ≠ [])
    (free : tree.entry? place = none) : (tree.put place entry).drop place = tree := by
  rw [entry?_of_ne_nil _ below, List.lookup_eq_none_iff] at free
  have others : tree.entries.filter (·.1 != place) = tree.entries := by
    rw [List.filter_eq_self]
    intro e member
    have apart := free e member
    rw [bne_iff_ne] at apart ⊢
    exact apart.symm
  simp only [put, drop]
  rw [List.filter_cons_of_neg (by simp), others, others]

theorem replace_alike {staged later : FileTree} {temp target : Path} {bytes : ByteArray}
    {p : Publication} (given : staged.readFile temp = .ok bytes)
    (success : staged.replace temp target = (.ok p, later)) : staged.Alike later := by
  rcases replace_ok_cases given success with ⟨_, rfl, _⟩ | ⟨_, renamed⟩
  · exact Alike.refl _
  · obtain ⟨place, goal, content, _, there, writable, rfl⟩ := (renameFile_iff _ _ _ _).mp renamed
    obtain ⟨_, _, free⟩ := (filePlace_iff staged target goal).mp writable
    exact (alike_drop staged (by simp [there])).trans
      (alike_put _ content (filePlace_ne_nil writable) fun found => free (drop_directory _ found))

theorem discard_vacant {tree : FileTree} {temp : Path} (leads : tree.Leads temp (tree.goal temp))
    (below : tree.goal temp ≠ []) (file : tree.entry? (tree.goal temp) ≠ some .directory) :
    entry? (tree.discard temp) (tree.goal temp) = none := by
  cases there : tree.entry? (tree.goal temp) with
  | none =>
    rcases discard_cases tree temp with still | ⟨place, bytes, leads', there', _⟩
    · rw [still, there]
    · cases leads'.goal
      rw [there] at there'
      cases there'
  | some entry =>
    cases entry with
    | directory => exact absurd there file
    | file bytes => rw [discard_of_leads leads there, entry?_drop_self tree below]

/-- Published targets are settled, nothing is under their temporary names, and no more than these
two files has changed. -/
theorem publish_settles {suffix : String} {tree later : FileTree} {target : Path}
    {content : String} {p : Publication} (named : ∃ name, target.EndsIn name)
    (success : tree.publish suffix target content = (.ok p, later)) :
    Settled suffix later target content ∧
      later.entry? (tree.goal (temporary suffix target)) = none ∧
      Confined tree later [tree.goal target, tree.goal (temporary suffix target)] := by
  obtain ⟨name, ends⟩ := named
  have read := publish_readFile ends success
  obtain ⟨before, place, final, made, staging, replaced, rfl⟩ := publish_ok_cases success
  have parent := makeParent_confined tree target
  rw [made] at parent
  obtain ⟨_, leads, vacant⟩ := (filePlace_iff before _ place).mp staging
  cases leads.goal
  have below := filePlace_ne_nil staging
  have staged := put_confined before content.toUTF8 vacant
  have moved := replace_confined (before.put (before.goal (temporary suffix target))
    (.file content.toUTF8)) (temporary suffix target) target
  rw [replaced, staged.keeps.goal, staged.keeps.goal] at moved
  have keeps := (staged.trans moved).keeps
  have gone : entry? (final.discard (temporary suffix target))
      (before.goal (temporary suffix target)) = none := by
    rw [← keeps.goal]
    apply discard_vacant
    · rw [keeps.goal]
      exact leads.kept keeps
    · rwa [keeps.goal]
    · rw [keeps.goal]
      intro found
      have back := (replace_alike (put_readFile _ staging) replaced).back.directories _ found
      rw [entry?_put_self before _ below] at back
      cases back
  have whole : Confined before (final.discard (temporary suffix target))
      [before.goal target, before.goal (temporary suffix target)] := by
    refine ⟨keeps.trans (alike_discard final _).keeps, fun other outside => ?_⟩
    simp only [List.mem_cons, List.not_mem_nil, or_false, not_or] at outside
    rw [entry?_discard_of_ne final (keeps.goal _ ▸ outside.2)]
    exact (staged.trans moved).frame other (by simp [outside])
  refine ⟨⟨⟨name, ends⟩, fun p above => ?_, read, ?_⟩, ?_, ?_⟩
  · exact (makeParent_stands made p above).kept whole.keeps
  · rw [whole.keeps.goal]
    exact leads.kept whole.keeps
  · rw [← parent.keeps.goal]
    exact gone
  · rw [← parent.keeps.goal, ← parent.keeps.goal]
    exact parent.trans whole

/-- Publishing the text that a settled target holds changes nothing at all, if nothing has the
temporary name. -/
theorem publish_of_settled {suffix : String} {tree : FileTree} {target : Path} {content : String}
    (settled : Settled suffix tree target content)
    (vacant : tree.entry? (tree.goal (temporary suffix target)) = none) :
    tree.publish suffix target content = (.ok .unchanged, tree) := by
  obtain ⟨name, ends⟩ := settled.named
  obtain ⟨other, _, hidden⟩ := temporary_endsIn suffix ends
  have made := settled.makeParent
  have staging : tree.filePlace (temporary suffix target) =
      .ok (tree.goal (temporary suffix target)) :=
    (filePlace_iff tree _ _).mpr ⟨⟨other, hidden⟩, settled.staging, by simp [vacant]⟩
  have below := filePlace_ne_nil staging
  have free : tree.entry? (tree.goal (temporary suffix target)) ≠ some .directory := by
    simp [vacant]
  have put := put_confined tree content.toUTF8 free
  have held := (contentOf_iff _ _ _).mpr (put.readFile settled.content
    (by simpa using tree.goal_temporary_ne suffix ends))
  have written := (writeFile_iff tree _ _ content.toUTF8).mpr ⟨_, staging, rfl⟩
  have dropped := discard_of_leads (settled.staging.kept put.keeps)
    (entry?_put_self tree (.file content.toUTF8) below)
  simp only [publish, made, written, replace_eq (put_readFile _ staging), held, Option.map_some,
    if_true, dropped, drop_put tree _ below vacant]

theorem filePlace_of_directory {tree : FileTree} {path : Path} {place : Place}
    (leads : tree.Leads path place) (there : tree.entry? place = some .directory) :
    tree.filePlace path = .error .isDirectory := by
  obtain ⟨slot, slotted, taken⟩ := slot_of_leads leads
  simp only [filePlace, slotted, bind, Except.bind]
  split
  · rfl
  case isFalse named =>
    have isName : slot.isName = true := by
      rw [Bool.or_eq_true, not_or, Bool.not_eq_true'] at named
      exact Bool.not_eq_false _ ▸ named.2
    obtain ⟨fits, here⟩ := taken isName
    simp only [fits, here, there, if_true]

/-- A settled target is not published again where its temporary name is that of a directory. -/
theorem publish_of_blocked {suffix : String} {tree : FileTree} {target : Path} {content : String}
    (settled : Settled suffix tree target content)
    (blocked : tree.entry? (tree.goal (temporary suffix target)) = some .directory) :
    tree.publish suffix target content =
      (.error (fileFault (temporary suffix target) .isDirectory), tree) := by
  have made := settled.makeParent
  have refused := filePlace_of_directory settled.staging blocked
  have written : tree.writeFile (temporary suffix target) content.toUTF8 =
      .error .isDirectory := by
    rw [writeFile, refused]
    rfl
  have kept : tree.discard (temporary suffix target) = tree := by
    have found := (find_iff tree _ _ _).mpr ⟨settled.staging, blocked⟩
    have removed : tree.removeFile (temporary suffix target) = .error .isDirectory := by
      rw [removeFile, found]
      rfl
    rw [discard, removed]
  simp only [publish, made, written, kept]

end ShaderVariants.FileTree
