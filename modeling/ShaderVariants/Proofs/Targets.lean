import ShaderVariants.Proofs.Builds
import ShaderVariants.Proofs.Effects
import ShaderVariants.Proofs.Orders

/-!
All that a build writes. The headers of a build go to different files, each of which is written or
found unchanged and then holds the text of its header; no other file is made, changed or dropped.
-/

namespace ShaderVariants

def Path.within (dir : Path) (files : List String) : List Path :=
  files.map fun file => dir.join (.single file)

/-! ## Publishing several files -/

namespace Output

/-- Whether targets can be published one after the other: they have names, lead to different
places, and no file has their temporary names, nor will one of them have such a name. -/
structure Ready (suffix : String) (tree : FileTree) (targets : List Path) : Prop where
  named : ∀ t ∈ targets, ∃ name, t.EndsIn name
  distinct : (targets.map tree.goal).Nodup
  free : ∀ t ∈ targets, ∀ bytes,
    tree.entry? (tree.goal (FileTree.temporary suffix t)) ≠ some (.file bytes)
  apart : ∀ t ∈ targets, tree.goal (FileTree.temporary suffix t) ∉ targets.map tree.goal

theorem Ready.left {suffix : String} {tree : FileTree} {targets others : List Path}
    (ready : Ready suffix tree (targets ++ others)) : Ready suffix tree targets where
  named t member := ready.named t (List.mem_append_left _ member)
  distinct := by
    have distinct := ready.distinct
    rw [List.map_append] at distinct
    exact (List.nodup_append.mp distinct).1
  free t member := ready.free t (List.mem_append_left _ member)
  apart t member inside := by
    apply ready.apart t (List.mem_append_left _ member)
    rw [List.map_append]
    exact List.mem_append_left _ inside

/-- Once some targets are written, the others can be as before. -/
theorem Ready.right {suffix : String} {tree later : FileTree} {targets others : List Path}
    (ready : Ready suffix tree (targets ++ others))
    (confined : FileTree.Confined tree later (targets.map tree.goal)) :
    Ready suffix later others := by
  have same : later.goal = tree.goal := funext confined.keeps.goal
  have distinct := ready.distinct
  have apart := ready.apart
  simp only [List.map_append] at distinct apart
  constructor
  · intro t member
    exact ready.named t (List.mem_append_right _ member)
  · rw [same]
    exact (List.nodup_append.mp distinct).2.1
  · intro t member
    rw [same]
    have here := List.mem_append_right targets member
    exact confined.free (ready.free t here) fun inside =>
      apart t here (List.mem_append_left _ inside)
  · intro t member inside
    rw [same] at inside
    exact apart t (List.mem_append_right _ member) (List.mem_append_right _ inside)

/-- How publishing goes from one output to another: only these files change, they hold their
texts, and each of them is listed once, as written or as unchanged. -/
structure Publishes (o later : Output) (files : List (Path × String)) : Prop where
  confined : FileTree.Confined o.tree later.tree (files.map fun f => o.tree.goal f.1)
  content : ∀ f ∈ files, later.tree.readFile f.1 = .ok f.2.toUTF8
  listed : ∃ written unchanged, later.written = o.written ++ written ∧
    later.unchanged = o.unchanged ++ unchanged ∧ written.Sublist (files.map (·.1)) ∧
    unchanged.Sublist (files.map (·.1)) ∧ (written ++ unchanged).Perm (files.map (·.1))

theorem publishes_nil {o : Output} {tree : FileTree} (log : List LogLine)
    (confined : FileTree.Confined o.tree tree []) : Publishes o { o with tree, log } [] :=
  ⟨confined, by simp, [], [], by simp⟩

theorem Publishes.append {o middle later : Output} {files others : List (Path × String)}
    (one : Publishes o middle files) (two : Publishes middle later others)
    (apart : ∀ f ∈ files, o.tree.goal f.1 ∉ others.map fun g => o.tree.goal g.1) :
    Publishes o later (files ++ others) := by
  have same : middle.tree.goal = o.tree.goal := funext one.confined.keeps.goal
  have confined := two.confined
  rw [same] at confined
  refine ⟨?_, ?_, ?_⟩
  · rw [List.map_append]
    exact one.confined.trans confined
  · intro f member
    rcases List.mem_append.mp member with earlier | last
    · refine confined.readFile (one.content f earlier) ?_
      rw [same]
      exact apart f earlier
    · exact two.content f last
  · obtain ⟨w, u, written, unchanged, w_sub, u_sub, all⟩ := one.listed
    obtain ⟨w', u', written', unchanged', w_sub', u_sub', all'⟩ := two.listed
    refine ⟨w ++ w', u ++ u', ?_, ?_, ?_, ?_, ?_⟩
    · rw [written', written, List.append_assoc]
    · rw [unchanged', unchanged, List.append_assoc]
    · rw [List.map_append]
      exact w_sub.append w_sub'
    · rw [List.map_append]
      exact u_sub.append u_sub'
    · rw [List.map_append]
      refine List.Perm.trans ?_ (all.append all')
      rw [List.perm_iff_count]
      intro path
      simp only [List.count_append]
      omega

/-- Targets that are ready together can be published in two parts. -/
theorem Publishes.andThen (suffix : String) {o middle later : Output}
    {files others : List (Path × String)}
    (ready : Ready suffix o.tree (files.map (·.1) ++ others.map (·.1)))
    (one : Publishes o middle files)
    (two : Ready suffix middle.tree (others.map (·.1)) → Publishes middle later others) :
    Publishes o later (files ++ others) := by
  have confined := one.confined
  rw [← Function.comp_def, ← List.map_map] at confined
  refine one.append (two (ready.right confined)) fun f member inside => ?_
  have distinct := ready.distinct
  rw [List.map_append, List.nodup_append, List.map_map, List.map_map] at distinct
  exact distinct.2.2 _ (List.mem_map_of_mem member) _ inside rfl

theorem publish_publishes {suffix : String} {o : Output} {tree : FileTree} {target : Path}
    {content : String} {p : Publication} (ready : Ready suffix o.tree [target])
    (success : o.tree.publish suffix target content = (.ok p, tree)) :
    Publishes o (o.record tree target p) [(target, content)] := by
  obtain ⟨name, ends⟩ := ready.named target List.mem_cons_self
  have free := ready.free target List.mem_cons_self
  have confined := FileTree.publish_confined free content
  rw [success] at confined
  have read := FileTree.publish_readFile ends success
  cases p with
  | written =>
    exact ⟨confined, List.forall_mem_singleton.mpr read, [target], [], by simp [record]⟩
  | unchanged =>
    exact ⟨confined, List.forall_mem_singleton.mpr read, [], [target], by simp [record]⟩

theorem publishEach_publishes (suffix : String) (dir : Path) (hs : List Header) (o later : Output)
    (ready : Ready suffix o.tree (hs.map fun h => dir.join h.path))
    (success : publishEach suffix dir o hs = (.ok (), later)) :
    Publishes o later (hs.map fun h => (dir.join h.path, h.content)) := by
  induction hs generalizing o with
  | nil =>
    cases success
    exact publishes_nil later.log (FileTree.Confined.refl later.tree)
  | cons h hs ih =>
    rw [publishEach] at success
    split at success
    · cases success
    case h_2 p tree published =>
      rw [List.map_cons, ← List.singleton_append] at ready ⊢
      have first := publish_publishes ready.left published
      refine first.andThen suffix ?_ fun rest => ih _ ?_ success
      · rwa [List.map_singleton, List.map_map]
      · rwa [List.map_map] at rest

/-- The files that headers go to in a directory, in the order of their paths. -/
def filesIn (dir : Path) (hs : List Header) : List (Path × String) :=
  (hs.mergeSort fun a b => a.path.le b.path).map fun h => (dir.join h.path, h.content)

theorem publishAll_publishes (suffix : String) (dir : Path) (hs : List Header) (o later : Output)
    (ready : Ready suffix o.tree ((filesIn dir hs).map (·.1)))
    (success : publishAll suffix dir o hs = (.ok (), later)) :
    Publishes o later (filesIn dir hs) := by
  apply publishEach_publishes suffix dir _ o later _ success
  rwa [filesIn, List.map_map] at ready

theorem filesIn_paths (dir : Path) (hs : List Header) (names : List String)
    (files : (hs.map (·.file)).Perm (names.map Header.fileOf)) (distinct : names.Nodup)
    (plain : ∀ name ∈ names, '/' ∉ name.toList) :
    (filesIn dir hs).map (·.1) =
      dir.within ((names.map Header.fileOf).mergeSort fun a b => a ≤ b) := by
  have named (h : Header) (member : h ∈ hs) :
      h.path = .single h.file ∧ Path.IsName h.file := by
    obtain ⟨name, inside, same⟩ := List.mem_map.mp (files.mem_iff.mp (List.mem_map_of_mem member))
    exact ⟨same ▸ Header.path_of_file same.symm (plain name inside),
      same ▸ Header.fileOf_isName name⟩
  have sorted : (hs.mergeSort fun a b => a.path.le b.path).map (·.file) =
      (hs.map (·.file)).mergeSort fun a b => a ≤ b := by
    apply List.map_mergeSort
    intro a first b second
    obtain ⟨path, plain⟩ := named a first
    obtain ⟨path', plain'⟩ := named b second
    rw [path, path', Path.le_single plain plain']
  have distinct' : (hs.map (·.file)).Nodup :=
    files.nodup_iff.mpr (distinct.map fun _ _ => Header.fileOf_injective)
  rw [← Catalog.mergeSort_eq_of_perm id _ (by simp) files (by simpa using distinct'), ← sorted,
    filesIn, Path.within, List.map_map, List.map_map]
  apply List.map_congr_left
  intro h member
  rw [Function.comp_apply, Function.comp_apply, (named h (List.mem_mergeSort.mp member)).1]

end Output

namespace Catalog

def targetFiles (c : Catalog) : List String :=
  ((Header.keysName :: c.ownNames).map Header.fileOf).mergeSort fun a b => a ≤ b

def declaredFiles (c : Catalog) : List String :=
  (c.ownNames.map Header.fileOf).mergeSort fun a b => a ≤ b

theorem Sound.names_nodup {c : Catalog} (sound : c.Sound) :
    (Header.keysName :: c.ownNames).Nodup := by
  rw [List.nodup_cons]
  exact ⟨fun inside => sound.unreserved inside List.mem_cons_self,
    sound.ownNames_apart.of_map foldCase⟩

private theorem sorted_isName (names : List String) :
    ∀ file ∈ (names.map Header.fileOf).mergeSort (fun a b => a ≤ b), Path.IsName file := by
  simp only [List.mem_mergeSort, List.mem_map]
  rintro _ ⟨name, _, rfl⟩
  exact Header.fileOf_isName name

theorem targetFiles_isName (c : Catalog) : ∀ file ∈ c.targetFiles, Path.IsName file :=
  sorted_isName _

theorem declaredFiles_isName (c : Catalog) : ∀ file ∈ c.declaredFiles, Path.IsName file :=
  sorted_isName _

theorem Sound.targetFiles_nodup {c : Catalog} (sound : c.Sound) : c.targetFiles.Nodup :=
  (List.mergeSort_perm _ _).nodup_iff.mpr (sound.names_nodup.map fun _ _ => Header.fileOf_injective)

theorem Sound.declaredFiles_nodup {c : Catalog} (sound : c.Sound) : c.declaredFiles.Nodup :=
  (List.mergeSort_perm _ _).nodup_iff.mpr
    ((List.nodup_cons.mp sound.names_nodup).2.map fun _ _ => Header.fileOf_injective)

theorem sorted_files_perm (c : Catalog) :
    (c.sortedStructures.map (Header.fileOf ·.name) ++
      c.sortedInterfaces.map (Header.fileOf ·.name)).Perm (c.ownNames.map Header.fileOf) := by
  rw [ownNames, List.map_append, List.map_map, List.map_map]
  exact ((List.mergeSort_perm _ _).map _).append ((List.mergeSort_perm _ _).map _)

theorem declaredHeaders_perm (c : Catalog) (types : TypeScope) :
    ((c.declaredHeaders types).map (·.file)).Perm (c.ownNames.map Header.fileOf) := by
  rw [declaredHeaders, List.map_append, List.map_map, List.map_map]
  exact c.sorted_files_perm

theorem targetHeaders_perm (c : Catalog) (types : TypeScope) :
    ((c.targetHeaders types).map (·.file)).Perm
      ((Header.keysName :: c.ownNames).map Header.fileOf) := by
  rw [targetHeaders, List.map_append, List.map_append, List.map_map, List.map_map, List.map_cons]
  exact (List.perm_append_singleton _ _).trans (c.sorted_files_perm.cons _)

end Catalog

/-- No header has the name of a temporary file. -/
theorem Header.fileOf_ne_hidden {suffix : String} (ending : ∃ stem, suffix = stem ++ ".tmp")
    (name other : String) : fileOf name ≠ s!".{other}{suffix}" := by
  obtain ⟨stem, rfl⟩ := ending
  intro same
  have chars := congrArg String.toList same
  have dotted : ".tmp".toList = ['.', 't', 'm', 'p'] := rfl
  rw [fileOf_toList, FileTree.hidden_toList, String.toList_append, dotted] at chars
  have backwards := congrArg List.reverse chars
  simp at backwards

namespace Build

/-- The files of all headers that a build makes, with or without the registry of compiled code, in
the order in which it publishes them. -/
def generated (config : BuildConfig) (i : Intake) (registry : Bool) : List (Path × String) :=
  Output.filesIn config.targetDir (i.catalog.targetHeaders i.types) ++
    Output.filesIn config.declaredDir (i.catalog.declaredHeaders i.types) ++
    if registry then
      Output.filesIn config.compiler.outputDir [Header.byteCodes i.catalog.jobs]
    else []

/-- The targets of a build: two headers for every structure and every interface, the header of all
keys, and perhaps the registry of compiled code. -/
def targets (config : BuildConfig) (c : Catalog) (registry : Bool) : List Path :=
  config.targetDir.within c.targetFiles ++ config.declaredDir.within c.declaredFiles ++
    config.compiler.outputDir.within
      (if registry then [Header.fileOf Header.byteCodesName] else [])

theorem generated_paths (config : BuildConfig) (i : Intake) (registry : Bool)
    (sound : i.catalog.Sound) (plain : ∀ name ∈ i.catalog.ownNames, '/' ∉ name.toList) :
    (generated config i registry).map (·.1) = targets config i.catalog registry := by
  have distinct := sound.names_nodup
  have registered : (Output.filesIn config.compiler.outputDir
      [Header.byteCodes i.catalog.jobs]).map (·.1) =
        config.compiler.outputDir.within [Header.fileOf Header.byteCodesName] := by
    rw [Output.filesIn_paths _ _ [Header.byteCodesName] (List.Perm.refl _)
      (List.nodup_singleton _) (by decide), List.map_singleton, List.mergeSort_singleton]
  rw [generated, targets, List.map_append, List.map_append,
    Output.filesIn_paths _ _ _ (i.catalog.targetHeaders_perm i.types) distinct
      (List.forall_mem_cons.mpr ⟨by decide, plain⟩),
    Output.filesIn_paths _ _ _ (i.catalog.declaredHeaders_perm i.types)
      (List.nodup_cons.mp distinct).2 plain]
  cases registry with
  | false => rfl
  | true => rw [if_pos rfl, if_pos rfl, registered]; rfl

theorem goals_within (tree : FileTree) (dir : Path) {files : List String}
    (plain : ∀ file ∈ files, Path.IsName file) :
    (dir.within files).map tree.goal = files.map fun file => tree.goal dir ++ [file] := by
  rw [Path.within, List.map_map]
  apply List.map_congr_left
  intro file member
  rw [Function.comp_apply, FileTree.goal_join_single, FileTree.step_of_isName _ (plain file member)]

theorem mem_targets {config : BuildConfig} {c : Catalog} {registry : Bool} {target : Path}
    (member : target ∈ targets config c registry) : ∃ (dir : Path) (name : String),
      dir ∈ [config.targetDir, config.declaredDir, config.compiler.outputDir] ∧
      target = dir.join (.single (Header.fileOf name)) := by
  simp only [targets, Path.within, Catalog.targetFiles, Catalog.declaredFiles, List.mem_append,
    List.mem_map, List.mem_mergeSort] at member
  rcases member with (⟨_, ⟨name, _, rfl⟩, rfl⟩ | ⟨_, ⟨name, _, rfl⟩, rfl⟩) | ⟨file, inside, rfl⟩
  · exact ⟨_, name, by simp, rfl⟩
  · exact ⟨_, name, by simp, rfl⟩
  · split at inside
    · cases List.mem_singleton.mp inside
      exact ⟨_, _, by simp, rfl⟩
    · cases inside

theorem targets_distinct (tree : FileTree) (config : BuildConfig) (c : Catalog) (registry : Bool)
    (sound : c.Sound)
    (directories : ([config.targetDir, config.declaredDir, config.compiler.outputDir].map
      tree.goal).Nodup) :
    ((targets config c registry).map tree.goal).Nodup := by
  have single (place : Place) {files : List String} (distinct : files.Nodup) :
      (files.map fun file => place ++ [file]).Nodup :=
    distinct.map fun _ _ same => List.singleton_inj.mp (List.append_cancel_left same)
  have across {place other : Place} (apart : place ≠ other) (files others : List String) :
      ∀ a ∈ files.map (fun file => place ++ [file]),
        ∀ b ∈ others.map (fun file => other ++ [file]), a ≠ b := by
    simp only [List.mem_map]
    rintro _ ⟨file, _, rfl⟩ _ ⟨file', _, rfl⟩ same
    exact apart (List.append_inj_left' same rfl)
  have last : ∀ file ∈ if registry then [Header.fileOf Header.byteCodesName] else [],
      Path.IsName file := by
    cases registry with
    | false => simp
    | true => exact List.forall_mem_singleton.mpr (Header.fileOf_isName _)
  simp only [List.map_cons, List.map_nil, List.nodup_cons, List.mem_cons, not_or,
    List.not_mem_nil] at directories
  obtain ⟨⟨first, second, _⟩, ⟨third, _⟩, _⟩ := directories
  rw [targets, List.map_append, List.map_append, goals_within tree _ c.targetFiles_isName,
    goals_within tree _ c.declaredFiles_isName, goals_within tree _ last, List.nodup_append,
    List.nodup_append]
  refine ⟨⟨single _ sound.targetFiles_nodup, single _ sound.declaredFiles_nodup,
    across first _ _⟩, single _ ?_, ?_⟩
  · cases registry <;> simp
  · intro a member b inside
    rcases List.mem_append.mp member with here | here
    · exact across second _ _ a here b inside
    · exact across third _ _ a here b inside

theorem targets_ready {suffix : String} (ending : ∃ stem, suffix = stem ++ ".tmp")
    (tree : FileTree) (config : BuildConfig) (c : Catalog) (registry : Bool) (sound : c.Sound)
    (directories : ([config.targetDir, config.declaredDir, config.compiler.outputDir].map
      tree.goal).Nodup)
    (free : ∀ target ∈ targets config c registry,
      tree.entry? (tree.goal (FileTree.temporary suffix target)) = none) :
    Output.Ready suffix tree (targets config c registry) where
  named target member := by
    obtain ⟨dir, name, _, rfl⟩ := mem_targets member
    exact ⟨_, dir.endsIn_join_single (Header.fileOf_isName name)⟩
  distinct := targets_distinct tree config c registry sound directories
  free target member bytes := by
    rw [free target member]
    exact Option.some_ne_none _ ∘ Eq.symm
  apart target member inside := by
    obtain ⟨other, member', same⟩ := List.mem_map.mp inside
    obtain ⟨dir, name, _, rfl⟩ := mem_targets member
    obtain ⟨dir', name', _, rfl⟩ := mem_targets member'
    rw [FileTree.goal_temporary tree _ (dir.endsIn_join_single (Header.fileOf_isName name)),
      FileTree.goal_join_single, FileTree.step_of_isName _ (Header.fileOf_isName name')] at same
    have last := congrArg List.getLast? same
    rw [List.getLast?_concat, List.getLast?_concat, Option.some.injEq] at last
    exact Header.fileOf_ne_hidden ending name' _ last

/-! ## Whole builds -/

section
variable {suffix : String} {config : BuildConfig} {i : Intake} {tree : FileTree}

theorem publishHeaders_publishes {o : Output}
    (ready : Output.Ready suffix tree ((generated config i false).map (·.1)))
    (success : publishHeaders suffix config i tree = (.ok (), o)) :
    Output.Publishes (.start tree) o (generated config i false) := by
  unfold publishHeaders at success
  dsimp only at success
  split at success
  · cases success
  case h_2 middle published =>
    rw [generated, if_neg Bool.false_ne_true, List.append_nil] at ready ⊢
    rw [List.map_append] at ready
    have first := Output.publishAll_publishes suffix _ _ (.start tree) middle ready.left published
    exact first.andThen suffix ready fun ready' =>
      Output.publishAll_publishes suffix _ _ _ o ready' success

theorem publishByteCodes_publishes {c : Catalog} {dir : Path} {o last : Output}
    (ready : Output.Ready suffix o.tree
      ((if c.hasFailed then [] else Output.filesIn dir [Header.byteCodes c.jobs]).map (·.1)))
    (success : publishByteCodes suffix dir c o = (.ok (), last)) :
    Output.Publishes o last
      (if c.hasFailed then [] else Output.filesIn dir [Header.byteCodes c.jobs]) := by
  unfold publishByteCodes at success
  split at success
  case isTrue failed =>
    cases success
    rw [if_pos failed]
    exact Output.publishes_nil o.log (FileTree.Confined.refl o.tree)
  case isFalse clean =>
    rw [if_neg clean] at ready ⊢
    exact Output.publishAll_publishes suffix dir _ o last ready success

theorem generated_append (config : BuildConfig) (i : Intake) (c : Catalog)
    (same : c.jobs = i.catalog.jobs) : generated config i (!c.hasFailed) =
      generated config i false ++ if c.hasFailed then [] else
        Output.filesIn config.compiler.outputDir [Header.byteCodes c.jobs] := by
  rw [generated, generated, if_neg Bool.false_ne_true, List.append_nil, same]
  cases c.hasFailed <;> rfl

/-- From its start to its end a build with the compiler only publishes what is generated, if the
runner leaves the files alone. -/
theorem Course.publishes {σ : Type} {runner : Runner (FileTree × σ)} {state : σ}
    {r : Compile.Result (FileTree × σ)} {last : Output}
    (course : Course suffix config runner tree state i r last)
    (still : ∀ call s, (runner call s).2.1 = s.1)
    (ready : Output.Ready suffix tree ((generated config i (!r.catalog.hasFailed)).map (·.1))) :
    Output.Publishes (.start tree) last (generated config i (!r.catalog.hasFailed)) := by
  rw [generated_append config i r.catalog course.jobs] at ready ⊢
  rw [List.map_append] at ready
  obtain ⟨o, made, lines, headers, prepared, outcome, ended⟩ := course.steps
  have untouched : r.state.1 = made := by
    rw [outcome]
    exact Compile.run_still _ runner _ _ _ Prod.fst still
  have directories : FileTree.Confined o.tree r.state.1 [] := by
    have confined := FileTree.makeMissing_confined config.compiler.outputDir.pieces.length o.tree
      config.compiler.outputDir
    rw [FileTree.makeDirectories] at prepared
    rwa [prepared, ← untouched] at confined
  have first := (publishHeaders_publishes ready.left headers).append
    (Output.publishes_nil lines directories) (by simp)
  rw [List.append_nil] at first
  exact first.andThen suffix ready fun ready' => publishByteCodes_publishes ready' ended

end

/-- What a build writes: each of these files is listed once, as written or as unchanged, in the
given order, and holds its text; no other file is made, changed or dropped, and all else that is
new is directories. -/
structure Writes (tree later : FileTree) (s : Summary) (files : List (Path × String)) : Prop where
  distinct : (files.map (·.1)).Nodup
  listed : (s.written ++ s.unchanged).Perm (files.map (·.1))
  written : s.written.Sublist (files.map (·.1))
  unchanged : s.unchanged.Sublist (files.map (·.1))
  content : ∀ f ∈ files, later.readFile f.1 = .ok f.2.toUTF8
  frame : ∀ place, (∀ f ∈ files, place ≠ tree.goal f.1) →
    later.entry? place = tree.entry? place ∨
      tree.entry? place = none ∧ later.entry? place = some .directory

theorem writes_of_publishes {tree : FileTree} {last : Output} {files : List (Path × String)}
    (distinct : (files.map fun f => tree.goal f.1).Nodup)
    (publishes : Output.Publishes (.start tree) last files) (report : Option Report)
    (failures : List String) :
    Writes tree last.tree ⟨last.written, last.unchanged, report, failures⟩ files := by
  obtain ⟨written, unchanged, same, same', written_sub, unchanged_sub, all⟩ := publishes.listed
  rw [Output.start, List.nil_append] at same same'
  refine ⟨?_, ?_, ?_, ?_, publishes.content, fun place outside => ?_⟩
  · have paths := distinct
    rw [← Function.comp_def, ← List.map_map] at paths
    exact paths.of_map tree.goal
  · rwa [same, same']
  · rwa [same]
  · rwa [same']
  · apply publishes.confined.frame
    rw [List.mem_map]
    rintro ⟨f, member, here⟩
    exact outside f member here.symm

/-- A build that comes to its end writes two headers for every structure and every interface, the
header of all keys, and if it has compiled everything, the registry of compiled code, each of them
once and in this order; and it leaves all other files alone. -/
theorem targets_written {σ : Type} (suffix : String) (config : BuildConfig)
    (runner : Runner (FileTree × σ)) (tree : FileTree) (state : σ) (summary : Summary)
    (success : (run suffix config runner tree state).result = .ok summary)
    (plain : ∀ i, (intake tree config.sourceDir).1 = .ok i →
      ∀ name ∈ i.catalog.ownNames, '/' ∉ name.toList)
    (directories : ([config.targetDir, config.declaredDir, config.compiler.outputDir].map
      tree.goal).Nodup)
    (ending : ∃ stem, suffix = stem ++ ".tmp")
    (free : ∀ i, (intake tree config.sourceDir).1 = .ok i →
      ∀ target ∈ targets config i.catalog (config.compile && summary.failures.isEmpty),
        tree.entry? (tree.goal (FileTree.temporary suffix target)) = none)
    (still : ∀ call s, (runner call s).2.1 = s.1) :
    ∃ i, (intake tree config.sourceDir).1 = .ok i ∧
      let files := generated config i (config.compile && summary.failures.isEmpty)
      files.map (·.1) = targets config i.catalog (config.compile && summary.failures.isEmpty) ∧
        Writes tree (run suffix config runner tree state).tree summary files := by
  have prepare (i : Intake) (taken : (intake tree config.sourceDir).1 = .ok i) :
      let files := generated config i (config.compile && summary.failures.isEmpty)
      files.map (·.1) = targets config i.catalog (config.compile && summary.failures.isEmpty) ∧
        Output.Ready suffix tree (files.map (·.1)) ∧
        (files.map fun f => tree.goal f.1).Nodup := by
    have sound := (intake_reaches tree config.sourceDir i taken).sound Catalog.empty_sound
    have paths := generated_paths config i (config.compile && summary.failures.isEmpty) sound
      (plain i taken)
    have ready := targets_ready ending tree config i.catalog _ sound directories (free i taken)
    rw [← paths] at ready
    have distinct := ready.distinct
    rw [List.map_map] at distinct
    exact ⟨paths, ready, distinct⟩
  cases compiles : config.compile with
  | false =>
    obtain ⟨i, o, lines, taken, headers, whole⟩ :=
      run_idle suffix config runner tree state summary compiles success
    obtain ⟨paths, ready, distinct⟩ := prepare i taken
    rw [whole] at success
    cases success
    rw [compiles, Bool.false_and] at paths ready distinct
    refine ⟨i, taken, paths, ?_⟩
    have publishes := (publishHeaders_publishes ready headers).append
      (Output.publishes_nil lines (FileTree.Confined.refl o.tree)) (by simp)
    rw [List.append_nil] at publishes
    rw [whole]
    exact writes_of_publishes distinct publishes none _
  | true =>
    obtain ⟨i, r, last, course⟩ :=
      run_course suffix config runner tree state summary compiles success
    obtain ⟨paths, ready, distinct⟩ := prepare i course.taken
    rw [course.whole] at success
    cases success
    have flag : (true && r.catalog.failures.isEmpty) = !r.catalog.hasFailed := by
      rw [Bool.true_and, Bool.eq_iff_iff, List.isEmpty_iff, ← course.clear, Bool.not_eq_true']
    rw [compiles] at paths ready distinct
    refine ⟨i, course.taken, paths, ?_⟩
    simp only [flag] at ready distinct ⊢
    rw [course.whole]
    exact writes_of_publishes distinct (course.publishes still ready) _ _

theorem targets_written_three :
    let tree : FileTree :=
      ⟨[(["cpp"], .directory), (["hlsl"], .directory), (["out"], .directory)], []⟩
    let config : BuildConfig := ⟨⟨["", "out"]⟩, ⟨["", "cpp"]⟩, ⟨["", "hlsl"]⟩,
      { CompilerSettings.standard with outputDir := ⟨["", "out"]⟩ }, true⟩
    let runner : Runner (FileTree × Unit) := .ofReply fun _ => .ok .silent
    ∃ summary i, (run ".tmp" config runner tree ()).result = .ok summary ∧
      i.catalog.ownNames = ["ForwardLighting", "IMGUI"] ∧
      Writes tree (run ".tmp" config runner tree ()).tree summary
        (generated config i summary.failures.isEmpty) := by
  intro tree config runner
  have leads : tree.Leads ⟨["", "out"]⟩ ["out"] :=
    FileTree.leads_rooted tree ⟨rfl, by decide⟩ (by decide) (by decide)
  have listed : tree.descriptionFiles ⟨["", "out"]⟩ = .ok [] := by
    have found : tree.find ⟨["", "out"]⟩ = .ok (["out"], .directory) :=
      (FileTree.find_iff tree _ _ _).mpr ⟨leads, rfl⟩
    have names : tree.list ⟨["", "out"]⟩ = .ok [] := by
      simp only [FileTree.list, found]
      rfl
    simp [FileTree.descriptionFiles, names, bind, Except.bind, pure, Except.pure]
  obtain ⟨i, taken, presets⟩ : ∃ i, (intake tree config.sourceDir).1 = .ok i ∧
      i.catalog = (Preset.addAll Preset.standard .empty).1 := by
    refine ⟨.start (Preset.addAll Preset.standard .empty).1
      ((Preset.addAll Preset.standard .empty).2 ++ [foundLine ⟨["", "out"]⟩ []]), ?_, rfl⟩
    simp only [intake, config, listed]
    rfl
  have own : i.catalog.ownNames = ["ForwardLighting", "IMGUI"] := by
    rw [presets, ownNames_standard]
  have fits := fits_standard
  rw [← presets] at fits
  have empty (directory file : String) : tree.entry? [directory, file] = none := by
    simp [tree, FileTree.entry?, List.lookup_cons]
  have opens (directory : String) (there : tree.entry? [directory] = some .directory)
      (plain : Path.IsName directory) (clean : '\x00' ∉ directory.toList)
      (short : directory.utf8ByteSize ≤ FileTree.maxName) {h : Header} {name : String}
      (file : h.file = Header.fileOf name)
      (known : name ∈ Header.byteCodesName :: Header.keysName :: i.catalog.ownNames) :
      FileTree.Open ".tmp" tree ((Path.mk ["", directory]).join h.path) := by
    have fit := fits name known
    rw [Header.path_of_file file fit.unbroken]
    exact FileTree.open_below there plain clean short (Header.fileOf_isName name)
      (by simp [empty]) fit.clean fit.short
  obtain ⟨summary, success⟩ :
      ∃ summary, (run ".tmp" config runner tree ()).result = .ok summary := by
    apply run_of_open ".tmp" config runner tree () i taken fun _ _ => rfl
    · intro h member
      obtain ⟨name, known, file⟩ := i.catalog.targetHeaders_files i.types h member
      exact opens "cpp" rfl ⟨rfl, by decide⟩ (by decide) (by decide) file
        (List.mem_cons_of_mem _ known)
    · intro h member
      obtain ⟨name, known, file⟩ := i.catalog.declaredHeaders_files i.types h member
      exact opens "hlsl" rfl ⟨rfl, by decide⟩ (by decide) (by decide) file
        (List.mem_cons_of_mem _ (List.mem_cons_of_mem _ known))
    · exact ⟨["out"], leads, rfl⟩
    · rw [← join_byteCodes_path config []]
      exact opens "out" rfl ⟨rfl, by decide⟩ (by decide) (by decide) rfl List.mem_cons_self
  refine ⟨summary, i, success, own, ?_⟩
  obtain ⟨i', taken', _, writes⟩ := targets_written ".tmp" config runner tree () summary success
    (by
      intro i' taken'
      cases taken.symm.trans taken'
      rw [own]
      decide)
    (by decide) ⟨"", rfl⟩
    (by
      intro i' _ target member
      obtain ⟨dir, name, inside, rfl⟩ := mem_targets member
      have plain := Header.fileOf_isName name
      rw [FileTree.goal_temporary tree _ (dir.endsIn_join_single plain), FileTree.goal_join_single,
        FileTree.step_of_isName _ plain, List.dropLast_concat]
      simp only [config, List.mem_cons, List.not_mem_nil, or_false] at inside
      rcases inside with rfl | rfl | rfl
      · exact empty "cpp" _
      · exact empty "hlsl" _
      · exact empty "out" _)
    fun _ _ => rfl
  cases taken.symm.trans taken'
  exact writes

end Build
end ShaderVariants
