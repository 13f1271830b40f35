import ShaderVariants.Proofs.Ways

/-!
Publishing one text after the other. A text that goes through is at its target afterwards, and one
that fails changes no file. Either way no file is left under the temporary name, and nothing else
differs but for directories that were missing on the way. So in the end each target holds the text
that was last published there.
-/

namespace ShaderVariants

theorem Path.fileName?_up {p : Path} (last : p.pieces.getLast? = some "..") :
    p.fileName? = none := by
  obtain ⟨anchor, before, shape⟩ := anchored_concat last rfl
  rw [fileName?, shape, dropLastFillers_concat before rfl, List.getLast?_concat]
  rfl

namespace FileTree

/-! ## Targets that go through -/

theorem readFile_last {tree : FileTree} {path : Path} {bytes : ByteArray}
    (read : tree.readFile path = .ok bytes) :
    ∃ piece, path.pieces.getLast? = some piece ∧ Path.isFiller piece = false := by
  obtain ⟨place, ⟨origin, pieces, started, walked⟩, there⟩ := (readFile_iff tree path bytes).mp read
  rw [← start_getLast? tree path origin pieces started]
  rcases List.eq_nil_or_concat pieces with rfl | ⟨before, piece, rfl⟩
  · have bare : path.pieces = [] := by
      rw [← List.getLast?_eq_none_iff, ← start_getLast? tree path origin [] started]
      rfl
    have blank : path.text = "" := by rw [Path.text, bare]; rfl
    simp [start, blank] at started
  · rw [List.concat_eq_append] at walked ⊢
    refine ⟨piece, List.getLast?_concat, ?_⟩
    rw [walk_append] at walked
    cases first : tree.walk origin before with
    | error e =>
      rw [first] at walked
      cases walked
    | ok directory =>
      rw [first] at walked
      have last : tree.walk directory [piece] = .ok place := walked
      simp only [walk, bind_eq_ok] at last
      obtain ⟨_, checked, last⟩ := last
      by_contra filler
      rw [Bool.not_eq_false] at filler
      rw [if_pos filler] at last
      cases last
      rw [(checkDirectory_iff tree _).mp checked] at there
      cases there

/-- Where a target has no name, its temporary file is looked up in it. -/
theorem directory_of_unnamed {tree : FileTree} {suffix : String} {target : Path} {place : Place}
    (unnamed : target.fileName? = none)
    (staging : tree.filePlace (temporary suffix target) = .ok place) :
    tree.entry? (tree.goal target) = some .directory := by
  obtain ⟨hidden, inside⟩ : ∃ hidden, temporary suffix target = target.join (.single hidden) :=
    ⟨_, by simp only [temporary, Path.withFileName, unnamed, Option.getD_none]; rfl⟩
  rw [inside] at staging
  obtain ⟨⟨name, ends⟩, leads, _⟩ := (filePlace_iff tree _ place).mp staging
  have same : hidden = name := by
    obtain ⟨before, pieces, _⟩ := target.join_single_pieces hidden
    have last := ends.last
    rw [pieces, List.getLast?_concat] at last
    exact Option.some.inj last
  obtain ⟨_, _, directory, _, _, there, _, shape⟩ :=
    (leads_iff_of_endsIn tree _ place ends).mp leads
  rw [leads.goal, goal_join_single, same, step_of_isName _ ends.plain] at shape
  rwa [(List.append_inj' shape rfl).1]

theorem publish_named {suffix : String} {tree later : FileTree} {target : Path} {content : String}
    {p : Publication} (success : tree.publish suffix target content = (.ok p, later)) :
    ∃ name, target.EndsIn name := by
  obtain ⟨before, place, final, _, staging, replaced, _⟩ := publish_ok_cases success
  rcases replace_ok_cases (put_readFile _ staging) replaced with ⟨_, _, held⟩ | ⟨_, moved⟩
  · obtain ⟨piece, last, solid⟩ := readFile_last held
    refine ⟨piece, ⟨solid, ?_⟩, last⟩
    rintro rfl
    have there := directory_of_unnamed (Path.fileName?_up last) staging
    obtain ⟨_, _, vacant⟩ := (filePlace_iff before _ place).mp staging
    have kept := keeps_put before content.toUTF8 vacant
    obtain ⟨goal, leads, file⟩ := (readFile_iff _ target _).mp held
    rw [leads.goal, kept.goal, kept.directories _ there] at file
    cases file
  · obtain ⟨_, goal, _, _, _, writable, _⟩ := (renameFile_iff _ _ _ _).mp moved
    exact ((filePlace_iff _ target goal).mp writable).1

theorem replace_of_held {staged : FileTree} {temp target : Path} {bytes : ByteArray}
    (given : staged.readFile temp = .ok bytes) (held : staged.readFile target = .ok bytes) :
    staged.replace temp target = (.ok .unchanged, staged) := by
  simp only [replace_eq given, (contentOf_iff _ _ _).mpr held, Option.map_some, if_true]

/-- What is unchanged was at the target before, even if the way there was not. -/
theorem publish_unchanged_iff {suffix : String} {tree later : FileTree} {target : Path}
    {content : String} {p : Publication}
    (success : tree.publish suffix target content = (.ok p, later)) :
    p = .unchanged ↔ tree.entry? (tree.goal target) = some (.file content.toUTF8) := by
  obtain ⟨name, ends⟩ := publish_named success
  have parent := makeParent_confined tree target
  obtain ⟨before, place, final, made, staging, replaced, _⟩ := publish_ok_cases success
  rw [made] at parent
  obtain ⟨_, leads, vacant⟩ := (filePlace_iff before _ place).mp staging
  cases leads.goal
  have put := keeps_put before content.toUTF8 vacant
  have apart := before.goal_temporary_ne suffix ends
  -- The target has the same entry all along, unless it is a directory.
  have same : tree.entry? (tree.goal target) = some (.file content.toUTF8) ↔
      entry? (before.put (before.goal (temporary suffix target)) (.file content.toUTF8))
        (before.goal target) = some (.file content.toUTF8) := by
    rw [entry?_put_of_ne before _ apart, parent.keeps.goal]
    rcases parent.frame (tree.goal target) List.not_mem_nil with still | ⟨none, directory⟩
    · rw [still]
    · rw [none, directory]
      exact ⟨nofun, nofun⟩
  rw [same]
  have given := put_readFile content.toUTF8 staging
  rcases replace_ok_cases given replaced with ⟨rfl, _, held⟩ | ⟨rfl, moved⟩
  · obtain ⟨goal, way, there⟩ := (readFile_iff _ target _).mp held
    rw [way.goal, put.goal] at there
    exact iff_of_true rfl there
  · refine iff_of_false nofun fun there => ?_
    obtain ⟨_, goal, _, _, _, writable, _⟩ := (renameFile_iff _ _ _ _).mp moved
    obtain ⟨_, way, _⟩ := (filePlace_iff _ target goal).mp writable
    rw [← way.goal.trans (put.goal target)] at there
    have held := (readFile_iff _ target _).mpr ⟨goal, way, there⟩
    rw [replace_of_held given held] at replaced
    cases replaced

theorem publish_alike {suffix : String} {tree later : FileTree} {target : Path} {content : String}
    {p : Publication} (success : tree.publish suffix target content = (.ok p, later)) :
    (tree.makeParent target).2.Alike later := by
  obtain ⟨before, place, final, made, staging, replaced, rfl⟩ := publish_ok_cases success
  obtain ⟨_, _, vacant⟩ := (filePlace_iff before _ place).mp staging
  rw [made]
  exact ((alike_put before _ (filePlace_ne_nil staging) vacant).trans
    (replace_alike (put_readFile _ staging) replaced)).trans (alike_discard final _)

/-! ## What fails -/

theorem replace_error {staged later : FileTree} {temp target : Path} {fault : Fault}
    (refused : staged.replace temp target = (.error fault, later)) : later = staged := by
  unfold replace at refused
  split at refused
  · cases refused
    rfl
  · cases refused
    rfl
  · split at refused
    · cases refused
    · split at refused <;> cases refused
      rfl

theorem entry?_eq_none {tree : FileTree} {place : Place}
    (file : ∀ bytes, tree.entry? place ≠ some (.file bytes))
    (directory : tree.entry? place ≠ some .directory) : tree.entry? place = none := by
  cases there : tree.entry? place with
  | none => rfl
  | some entry =>
    cases entry with
    | directory => exact absurd there directory
    | file bytes => exact absurd there (file bytes)

section
variable {suffix : String} {tree later : FileTree} {target : Path} {content : String}
  (free : ∀ bytes, tree.entry? (tree.goal (temporary suffix target)) ≠ some (.file bytes))
include free

/-- Publishing that fails leaves nothing but the directories that it made. -/
theorem publish_error {fault : Fault}
    (refused : tree.publish suffix target content = (.error fault, later)) :
    later = (tree.makeParent target).2 := by
  have parent := makeParent_confined tree target
  unfold publish at refused
  cases made : tree.makeParent target with
  | mk result before =>
    rw [made] at refused parent
    have free' := parent.free free List.not_mem_nil
    rw [← parent.keeps.goal] at free'
    cases result with
    | error e =>
      cases refused
      rfl
    | ok _ =>
      dsimp only at refused ⊢
      split at refused
      case h_1 =>
        cases refused
        rcases discard_cases before (temporary suffix target) with
          still | ⟨place, bytes, leads, there, _⟩
        · exact still
        · cases leads.goal
          exact absurd there (free' bytes)
      case h_2 staged written =>
        obtain ⟨place, staging, rfl⟩ := (writeFile_iff before staged _ _).mp written
        obtain ⟨_, leads, vacant⟩ := (filePlace_iff before _ place).mp staging
        generalize replaced : replace (before.put place (.file content.toUTF8))
          (temporary suffix target) target = answer at refused
        obtain ⟨result, final⟩ := answer
        cases refused
        cases replace_error replaced
        cases leads.goal
        have below := filePlace_ne_nil staging
        have put := keeps_put before content.toUTF8 vacant
        rw [discard_of_leads (leads.kept put) (entry?_put_self before _ below),
          drop_put before _ below (entry?_eq_none free' vacant)]

end

/-! ## One after the other -/

/-- A text to publish at a target, with what its temporary name ends in. -/
structure Edition where
  suffix : String
  target : Path
  content : String

def Edition.temporary (e : Edition) : Path := FileTree.temporary e.suffix e.target

def issue (tree : FileTree) (e : Edition) : Except Fault Publication × FileTree :=
  tree.publish e.suffix e.target e.content

def issueAll (tree : FileTree) (editions : List Edition) : FileTree :=
  editions.foldl (fun tree e => (tree.issue e).2) tree

/-- Whether no file has the temporary name of an edition when its turn comes. -/
def Clear : FileTree → List Edition → Prop
  | _, [] => True
  | tree, e :: editions =>
      (∀ bytes, tree.entry? (tree.goal e.temporary) ≠ some (.file bytes)) ∧
        Clear (tree.issue e).2 editions

structure Effect (tree : FileTree) (e : Edition) (answer : Except Fault Publication)
    (later : FileTree) : Prop where
  written : ∀ p, answer = .ok p → later.readFile e.target = .ok e.content.toUTF8
  unchanged : ∀ p, answer = .ok p →
    (p = .unchanged ↔ tree.entry? (tree.goal e.target) = some (.file e.content.toUTF8))
  temporary : ∀ bytes, later.entry? (tree.goal e.temporary) ≠ some (.file bytes)
  /-- What is elsewhere is as before, or it is a directory that was missing on the way to the parent
  of the target. Where the edition fails, this is true of the target as well. -/
  elsewhere : ∀ place, (place ≠ tree.goal e.target ∨ ∃ fault, answer = .error fault) →
    later.entry? place = tree.entry? place ∨
      tree.entry? place = none ∧ later.entry? place = some .directory ∧
        ∃ parent, e.target.parent? = some parent ∧ tree.OnWay parent place
  working : later.working = tree.working

section
variable {tree : FileTree} {e : Edition}
  (free : ∀ bytes, tree.entry? (tree.goal e.temporary) ≠ some (.file bytes))
include free

theorem issue_error {fault : Fault} (refused : (tree.issue e).1 = .error fault) :
    (tree.issue e).2 = (tree.makeParent e.target).2 :=
  publish_error free (Prod.ext refused rfl)

/-- An edition that goes through changes at most its target, and one that fails nothing at all, but
for directories that were missing. -/
theorem issue_confined : Confined tree (tree.issue e).2 [tree.goal e.target] ∧
    ∀ fault, (tree.issue e).1 = .error fault → Confined tree (tree.issue e).2 [] := by
  refine ⟨publish_confined free e.content, fun fault refused => ?_⟩
  rw [issue_error free refused]
  exact makeParent_confined tree e.target

theorem issue_effect : Effect tree e (tree.issue e).1 (tree.issue e).2 where
  written p success := by
    have whole : tree.issue e = (.ok p, (tree.issue e).2) := Prod.ext success rfl
    obtain ⟨name, ends⟩ := publish_named whole
    exact publish_readFile ends whole
  unchanged p success := by
    have whole : tree.issue e = (.ok p, (tree.issue e).2) := Prod.ext success rfl
    exact publish_unchanged_iff whole
  temporary := by
    obtain ⟨confined, failed⟩ := issue_confined free
    cases answer : (tree.issue e).1 with
    | error fault => exact (failed fault answer).free free List.not_mem_nil
    | ok p =>
      have whole : tree.issue e = (.ok p, (tree.issue e).2) := Prod.ext answer rfl
      obtain ⟨name, ends⟩ := publish_named whole
      refine confined.free free ?_
      rw [List.mem_singleton]
      exact (tree.goal_temporary_ne e.suffix ends).symm
  elsewhere place outside := by
    have parent := makeParent_confined tree e.target
    have made (directory : entry? (tree.makeParent e.target).2 place = some .directory)
        (missing : tree.entry? place = none) :
        ∃ parent, e.target.parent? = some parent ∧ tree.OnWay parent place := by
      apply makeParent_changes
      rw [directory, missing]
      exact nofun
    cases answer : (tree.issue e).1 with
    | error fault =>
      rw [issue_error free answer]
      rcases parent.frame place List.not_mem_nil with same | ⟨missing, directory⟩
      · exact Or.inl same
      · exact Or.inr ⟨missing, directory, made directory missing⟩
    | ok p =>
      have apart : place ∉ [tree.goal e.target] := by
        simpa [answer] using outside
      rcases (issue_confined free).1.frame place apart with same | ⟨missing, directory⟩
      · exact Or.inl same
      · have whole : tree.issue e = (.ok p, (tree.issue e).2) := Prod.ext answer rfl
        have earlier := (publish_alike whole).back.directories place directory
        exact Or.inr ⟨missing, directory, made earlier missing⟩
  working := (issue_confined free).1.keeps.working

end

theorem issueAll_append (tree : FileTree) (before after : List Edition) :
    tree.issueAll (before ++ after) = (tree.issueAll before).issueAll after :=
  List.foldl_append

theorem clear_append {tree : FileTree} {before after : List Edition} :
    Clear tree (before ++ after) ↔ Clear tree before ∧ Clear (tree.issueAll before) after := by
  induction before generalizing tree with
  | nil => exact (and_iff_right trivial).symm
  | cons e before ih => rw [List.cons_append, Clear, Clear, ih, and_assoc]; rfl

/-- No file comes up under a temporary name where none was and no target has that name. -/
theorem clear_of_apart {tree : FileTree} {editions : List Edition}
    (free : ∀ e ∈ editions, ∀ bytes, tree.entry? (tree.goal e.temporary) ≠ some (.file bytes))
    (apart : ∀ e ∈ editions, ∀ other ∈ editions,
      tree.goal e.target ≠ tree.goal other.temporary) : Clear tree editions := by
  induction editions generalizing tree with
  | nil => trivial
  | cons e editions ih =>
    rw [List.forall_mem_cons] at free
    have confined := (issue_confined free.1).1
    refine ⟨free.1, ih (fun other member => ?_) fun e' here other there => ?_⟩
    · rw [confined.keeps.goal]
      refine confined.free (free.2 other member) ?_
      rw [List.mem_singleton]
      exact (apart e List.mem_cons_self other (List.mem_cons_of_mem _ member)).symm
    · rw [confined.keeps.goal, confined.keeps.goal]
      exact apart e' (List.mem_cons_of_mem _ here) other (List.mem_cons_of_mem _ there)

theorem Clear.keeps {tree : FileTree} {editions : List Edition} (clear : Clear tree editions) :
    tree.Keeps (tree.issueAll editions) := by
  induction editions generalizing tree with
  | nil => exact Keeps.refl tree
  | cons e editions ih => exact (issue_confined clear.1).1.keeps.trans (ih clear.2)

theorem Clear.readFile {tree : FileTree} {editions : List Edition} (clear : Clear tree editions)
    {target : Path} {bytes : ByteArray} (read : tree.readFile target = .ok bytes)
    (others : ∀ before e after p, editions = before ++ e :: after →
      ((tree.issueAll before).issue e).1 = .ok p → tree.goal e.target ≠ tree.goal target) :
    (tree.issueAll editions).readFile target = .ok bytes := by
  induction editions generalizing tree with
  | nil => exact read
  | cons e editions ih =>
    obtain ⟨free, rest⟩ := clear
    obtain ⟨confined, failed⟩ := issue_confined free
    apply ih rest
    · cases answer : (tree.issue e).1 with
      | error fault => exact (failed fault answer).readFile read List.not_mem_nil
      | ok p =>
        apply confined.readFile read
        rw [List.mem_singleton]
        exact (others [] e editions p rfl answer).symm
    · intro before e' after p shape answer
      rw [confined.keeps.goal, confined.keeps.goal]
      exact others (e :: before) e' after p (by rw [shape, List.cons_append]) answer

/-- An edition that goes through puts its text at its target. But for that, and for directories that
were missing on the way to the parent of a target, nothing changes, and no temporary file is left. In
the end each target holds the text of the last edition that went through there. -/
theorem editions_settle (tree : FileTree) (editions : List Edition) (clear : Clear tree editions) :
    (∀ before e after, editions = before ++ e :: after →
      let now := tree.issueAll before
      Effect now e (now.issue e).1 (now.issue e).2) ∧
    ∀ before e after p, editions = before ++ e :: after →
      ((tree.issueAll before).issue e).1 = .ok p →
      (∀ between e' rest p', after = between ++ e' :: rest →
        ((tree.issueAll (before ++ e :: between)).issue e').1 = .ok p' →
        tree.goal e'.target ≠ tree.goal e.target) →
      (tree.issueAll editions).readFile e.target = .ok e.content.toUTF8 := by
  constructor
  · rintro before e after rfl
    exact issue_effect (clear_append.mp clear).2.1
  · rintro before e after p rfl success last
    obtain ⟨first, free, rest⟩ := clear_append.mp clear
    have step (between : List Edition) : tree.issueAll (before ++ e :: between) =
        ((tree.issueAll before).issue e).2.issueAll between := issueAll_append tree before _
    have keeps := first.keeps.trans (issue_confined free).1.keeps
    rw [step]
    refine rest.readFile ((issue_effect free).written p success) ?_
    intro between e' after p' shape answer
    rw [keeps.goal, keeps.goal]
    exact last between e' after p' shape (step between ▸ answer)

theorem editions_settle_twice :
    let e : Edition := ⟨".tmp", ⟨["", "Light.h"]⟩, "struct Light;"⟩
    Clear .empty [e, e] ∧ (issue .empty e).1 = .ok .written ∧
      ((issueAll .empty [e]).issue e).1 = .ok .unchanged ∧
      (issueAll .empty [e, e]).readFile ⟨["", "Light.h"]⟩ = .ok "struct Light;".toUTF8 := by
  intro e
  have opens : Open ".tmp" .empty ⟨["", "Light.h"]⟩ :=
    open_rooted (Keeps.refl _) ⟨rfl, by decide⟩ (by decide) (by decide)
  have free : entry? .empty (goal .empty e.temporary) = none := rfl
  have apart : goal .empty e.target ≠ goal .empty e.temporary := by decide
  have clear : Clear .empty [e, e] := clear_of_apart (by simp [free]) (by simp [apart])
  obtain ⟨p, later, published, _⟩ := publish_of_open opens "struct Light;"
  have new : p = .written := by
    have missing : entry? .empty (goal .empty e.target) = none := rfl
    cases p with
    | written => rfl
    | unchanged =>
      have held := (publish_unchanged_iff published).mp rfl
      cases held.symm.trans missing
  obtain ⟨settled, vacant, confined⟩ :=
    publish_settles ⟨"Light.h", ⟨rfl, by decide⟩, rfl⟩ published
  have again := publish_of_settled settled (confined.keeps.goal _ ▸ vacant)
  have step : issueAll .empty [e] = later := congrArg Prod.snd published
  have same : ((issueAll .empty [e]).issue e).1 = .ok .unchanged := by
    rw [step]
    exact congrArg Prod.fst again
  refine ⟨clear, new ▸ congrArg Prod.fst published, same, ?_⟩
  exact (editions_settle .empty [e, e] clear).2 [e] e [] .unchanged rfl same (by simp)

/-- A target that is one of the directories missing on its own way. -/
theorem target_made_directory :
    let target : Path := ⟨["", "x", "..", "x"]⟩
    let e : Edition := ⟨".0-1.tmp", target, "a"⟩
    entry? .empty (goal .empty e.temporary) = none ∧
      (issue .empty e).1 = .error (.file "/x/../x" .isDirectory) ∧
      entry? .empty (goal .empty target) = none ∧
      entry? (issue .empty e).2 (goal .empty target) = some .directory := by
  intro target e
  have starts (tree : FileTree) : tree.start target = .ok ([], ["x", "..", "x"]) :=
    start_absolute tree rfl (by decide) (by decide)
  have up (tree : FileTree) : tree.start ⟨["", "x", ".."]⟩ = .ok ([], ["x", ".."]) :=
    start_absolute tree rfl (by decide) (by decide)
  have one (tree : FileTree) : tree.start ⟨["", "x"]⟩ = .ok ([], ["x"]) :=
    start_absolute tree rfl (by decide) (by decide)
  have hidden (tree : FileTree) : tree.start e.temporary = .ok ([], ["x", "..", ".x.0-1.tmp"]) :=
    start_absolute tree rfl (by decide) (by decide)
  let middle : FileTree := ⟨[(["x"], .directory)], []⟩
  have missing : makeDirectory .empty ⟨["", "x", ".."]⟩ = .error .notFound := by
    rw [makeDirectory, slot, up]
    rfl
  have first : makeDirectory .empty ⟨["", "x"]⟩ = .ok middle := by
    rw [makeDirectory, slot, one]
    rfl
  have there : middle.makeDirectory ⟨["", "x", ".."]⟩ = .error .alreadyExists := by
    rw [makeDirectory, slot, up]
    rfl
  have stands : middle.isDirectory ⟨["", "x", ".."]⟩ = true := by
    rw [isDirectory, find, up]
    rfl
  have made : makeParent .empty target = (.ok (), middle) := by
    have above : target.parent? = some ⟨["", "x", ".."]⟩ := by decide
    have upper : (Path.mk ["", "x", ".."]).parent? = some ⟨["", "x"]⟩ := by decide
    have top : (Path.mk ["", "x"]).parent? = some ⟨["", ""]⟩ := by decide
    simp only [makeParent, above, makeDirectories, List.length_cons, List.length_nil, makeMissing,
      upper, top, missing, first, there, settle, stands, if_true]
    rfl
  have staged : middle.writeFile e.temporary "a".toUTF8 =
      .ok (middle.put [".x.0-1.tmp"] (.file "a".toUTF8)) := by
    rw [writeFile, filePlace, slot, hidden]
    rfl
  have held : contentOf (middle.put [".x.0-1.tmp"] (.file "a".toUTF8)) target =
      .error (.file "/x/../x" .isDirectory) := by
    rw [contentOf, readFile, find, starts]
    rfl
  have own : readFile (middle.put [".x.0-1.tmp"] (.file "a".toUTF8)) e.temporary =
      .ok "a".toUTF8 := by
    rw [readFile, find, hidden]
    rfl
  have answer : (issue .empty e).1 = .error (.file "/x/../x" .isDirectory) := by
    have staged' : middle.writeFile (temporary ".0-1.tmp" target) "a".toUTF8 = _ := staged
    have refused := replace_eq own target
    rw [held] at refused
    simp only [issue, publish, e, made, staged']
    exact congrArg Prod.fst refused
  have free : entry? .empty (goal .empty e.temporary) = none := rfl
  refine ⟨free, answer, rfl, ?_⟩
  rw [issue_error (by simp [free]) answer, made]
  rfl

end FileTree
end ShaderVariants
