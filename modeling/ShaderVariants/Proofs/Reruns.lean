import ShaderVariants.Proofs.Documents
import ShaderVariants.Proofs.Nested

/-!
Building twice. What a build publishes is outside the directory of its sources, so a second build
takes in the same descriptions, makes the same headers and finds every one of them in place. With a
runner that always gives the same replies it also ends with the same report and the same failures.
What can stop it is a directory where a temporary file has to go, and the first build may have made
that directory itself.
-/

namespace ShaderVariants

/-! ## The same sources -/

namespace FileTree

theorem start_eq_ok {tree : FileTree} {path : Path} {started : Place × List String}
    (success : tree.start path = .ok started) :
    started = if path.isAbsolute then ([], path.pieces.drop 1) else (tree.working, path.pieces) := by
  unfold start at success
  split at success
  · cases success
  split at success
  · cases success
  split at success
  · cases success
  split at success
  case isTrue absolute =>
    cases success
    rw [if_pos absolute]
  case isFalse relative =>
    cases success
    rw [if_neg relative]

theorem start_join_single {tree : FileTree} {dir : Path} {origin : Place} {pieces : List String}
    {name : String} {joined : Place × List String} (started : tree.start dir = .ok (origin, pieces))
    (started' : tree.start (dir.join (.single name)) = .ok joined) :
    ∃ way, joined = (origin, way ++ [name]) ∧ (pieces = way ∨ pieces = way ++ [""]) := by
  have here := start_eq_ok started
  have there := start_eq_ok started'
  obtain ⟨before, shape, slash⟩ := dir.join_single_pieces name
  rw [dir.join_single_isAbsolute, shape] at there
  cases absolute : dir.isAbsolute with
  | false =>
    rw [absolute, if_neg Bool.false_ne_true] at here there
    cases here
    exact ⟨before, there, slash.imp And.left id⟩
  | true =>
    rw [absolute, if_pos rfl] at here there
    cases here
    obtain ⟨next, rest, pieces⟩ := (Path.isAbsolute_iff dir).mp absolute
    rw [pieces] at slash ⊢
    cases before with
    | nil => rcases slash with ⟨empty, _⟩ | single <;> simp_all
    | cons first before =>
      refine ⟨before, there, ?_⟩
      rcases slash with ⟨same, _⟩ | same
      · cases same
        exact Or.inl rfl
      · rw [List.cons_append, List.cons.injEq] at same
        exact Or.inr same.2

theorem leads_join_single_iff {tree : FileTree} {dir : Path} {place : Place} {name : String}
    (leads : tree.Leads dir place) (there : tree.entry? place = some .directory)
    (plain : Path.IsName name) : tree.Leads (dir.join (.single name)) (place ++ [name]) ↔
      (∃ joined, tree.start (dir.join (.single name)) = .ok joined) ∧ checkName name = .ok () := by
  rw [leads_iff_of_endsIn tree _ _ (dir.endsIn_join_single plain)]
  constructor
  · rintro ⟨origin, before, _, started, _, _, fits, _⟩
    exact ⟨⟨_, started⟩, fits⟩
  · rintro ⟨⟨joined, started'⟩, fits⟩
    obtain ⟨origin, pieces, started, walked⟩ := leads
    obtain ⟨way, rfl, same⟩ := start_join_single started started'
    refine ⟨origin, way, place, started', ?_, there, fits, rfl⟩
    rcases same with rfl | rfl
    · exact walked
    · rw [walk_append] at walked
      cases first : tree.walk origin way with
      | error e =>
        rw [first] at walked
        cases walked
      | ok last =>
        rw [first] at walked
        obtain ⟨_, _, rest⟩ := bind_eq_ok.mp (show tree.walk last [""] = .ok place from walked)
        cases rest
        rfl

section
variable {tree later : FileTree} {places : List Place} {dir : Path}
  (confined : Confined tree later places)
  (outside : ∀ place ∈ places, ∀ name, place ≠ tree.goal dir ++ [name])
include confined outside

/-- Directly in a directory where nothing is written the same paths are those of files. -/
theorem Confined.describes_iff (leads : tree.Leads dir (tree.goal dir))
    (there : tree.entry? (tree.goal dir) = some .directory) (path : Path) :
    later.Describes dir path ↔ tree.Describes dir path := by
  have regular (name : String) (plain : Path.IsName name) :
      later.isFile (dir.join (.single name)) = true ↔
        tree.isFile (dir.join (.single name)) = true := by
    have reach := leads_join_single_iff leads there plain
    have reach' := leads_join_single_iff (leads.kept confined.keeps)
      (confined.keeps.directories _ there) plain
    rw [confined.keeps.start] at reach'
    rw [isFile_iff, isFile_iff, confined.keeps.goal, goal_join_single, step_of_isName _ plain, reach,
      reach']
    rcases confined.frame (tree.goal dir ++ [name]) fun inside => outside _ inside name rfl with
      same | ⟨free, made⟩
    · rw [same]
    · simp [free, made]
  constructor
  · rintro ⟨⟨name, plain, rfl⟩, file, ending⟩
    exact ⟨⟨name, plain, rfl⟩, (regular name plain).mp file, ending⟩
  · rintro ⟨⟨name, plain, rfl⟩, file, ending⟩
    exact ⟨⟨name, plain, rfl⟩, (regular name plain).mpr file, ending⟩

theorem Confined.descriptionFiles {paths : List Path}
    (success : tree.descriptionFiles dir = .ok paths) : later.descriptionFiles dir = .ok paths := by
  have listed := success
  unfold FileTree.descriptionFiles list at listed
  obtain ⟨_, listed, _⟩ := bind_eq_ok.mp listed
  obtain ⟨⟨place, entry⟩, located, listed⟩ := bind_eq_ok.mp listed
  obtain ⟨leads, there⟩ := (find_iff tree dir place entry).mp located
  cases leads.goal
  cases entry with
  | file bytes => cases listed
  | directory =>
    have located' := (find_iff later dir _ _).mpr
      ⟨leads.kept confined.keeps, confined.keeps.directories _ there⟩
    obtain ⟨paths', success'⟩ : ∃ paths', later.descriptionFiles dir = .ok paths' := by
      simp only [FileTree.descriptionFiles, list, located', bind, Except.bind, pure, Except.pure]
      exact ⟨_, rfl⟩
    obtain ⟨members, distinct, sorted⟩ := descriptionFiles_eq_ok success
    obtain ⟨members', distinct', sorted'⟩ := descriptionFiles_eq_ok success'
    rw [success', Except.ok.injEq]
    refine List.Perm.eq_of_pairwise (fun a b first second below above => ?_) sorted' sorted ?_
    · obtain ⟨name, plain, rfl⟩ := ((members' a).mp first).inside
      obtain ⟨name', plain', rfl⟩ := ((members b).mp second).inside
      have last := congrArg List.getLast? (Path.leComponents_antisymm _ _ below above)
      rw [(dir.endsIn_join_single plain).components_getLast?,
        (dir.endsIn_join_single plain').components_getLast?] at last
      cases last
      rfl
    · rw [List.perm_ext_iff_of_nodup distinct' distinct]
      intro path
      rw [members, members', confined.describes_iff outside leads there]

theorem Confined.ofFile {path : Path} (describes : tree.Describes dir path) :
    Description.ofFile later path = Description.ofFile tree path := by
  obtain ⟨bytes, leads, content⟩ := (isFile_iff tree path).mp describes.regular
  have read := (readFile_iff tree path bytes).mpr ⟨_, leads, content⟩
  obtain ⟨name, plain, rfl⟩ := describes.inside
  have read' := confined.readFile read fun inside => by
    rw [goal_join_single, step_of_isName _ plain] at inside
    exact outside _ inside name rfl
  simp only [Description.ofFile, readText, read, read']

end

end FileTree

theorem Intake.read_of_same {tree other : FileTree} {paths : List Path}
    (same : ∀ p ∈ paths, Description.ofFile other p = Description.ofFile tree p) (i : Intake) :
    read other i paths = read tree i paths := by
  induction paths generalizing i with
  | nil => rfl
  | cons path paths ih =>
    rw [List.forall_mem_cons] at same
    rw [read, read, same.1]
    simp only [ih same.2]

namespace Build
open FileTree (temporary Confined Standing)
open Output (Spread Settles Rests Quiet Blocks)

theorem intake_of_confined {tree later : FileTree} {places : List Place} {dir : Path} {i : Intake}
    (confined : Confined tree later places)
    (outside : ∀ place ∈ places, ∀ name, place ≠ tree.goal dir ++ [name])
    (success : (intake tree dir).1 = .ok i) : (intake later dir).1 = .ok i := by
  obtain ⟨paths, listed, taken, fits⟩ := intake_eq_ok.mp success
  have same (p : Path) (member : p ∈ paths) :
      Description.ofFile later p = Description.ofFile tree p :=
    confined.ofFile outside (((FileTree.descriptionFiles_eq_ok listed).1 p).mp member)
  refine intake_eq_ok.mpr ⟨paths, confined.descriptionFiles outside listed, ?_, fits⟩
  rw [taken, Intake.takeFiles, Intake.takeFiles, Intake.read_of_same same]

/-! ## The same targets -/

theorem mem_filesIn {dir : Path} {hs : List Header} {f : Path × String}
    (member : f ∈ Output.filesIn dir hs) : ∃ h ∈ hs, f = (dir.join h.path, h.content) := by
  obtain ⟨h, inside, rfl⟩ := List.mem_map.mp member
  exact ⟨h, List.mem_mergeSort.mp inside, rfl⟩

theorem generated_endsIn {config : BuildConfig} {i : Intake} {registry : Bool}
    {f : Path × String} (member : f ∈ generated config i registry) :
    ∃ stem, f.1.EndsIn (Header.fileOf stem) := by
  simp only [generated, List.mem_append] at member
  rcases member with (target | declared) | last
  · obtain ⟨h, inside, rfl⟩ := mem_filesIn target
    obtain ⟨name, _, file⟩ := i.catalog.targetHeaders_files i.types h inside
    exact Header.join_path_endsIn_some _ file
  · obtain ⟨h, inside, rfl⟩ := mem_filesIn declared
    obtain ⟨name, _, file⟩ := i.catalog.declaredHeaders_files i.types h inside
    exact Header.join_path_endsIn_some _ file
  · split at last
    · obtain ⟨h, inside, rfl⟩ := mem_filesIn last
      cases List.mem_singleton.mp inside
      exact @Header.join_path_endsIn_some _ _ Header.byteCodesName rfl
    · cases last

theorem generated_within (tree : FileTree) {config : BuildConfig} {i : Intake} {registry : Bool}
    (sound : i.catalog.Sound) (plain : ∀ name ∈ i.catalog.ownNames, '/' ∉ name.toList)
    {f : Path × String} (member : f ∈ generated config i registry) : ∃ dir name,
      dir ∈ [config.targetDir, config.declaredDir, config.compiler.outputDir] ∧
      tree.goal f.1 = tree.goal dir ++ [Header.fileOf name] ∧
      f.1.EndsIn (Header.fileOf name) := by
  have target := List.mem_map_of_mem (f := Prod.fst) member
  rw [generated_paths config i registry sound plain] at target
  obtain ⟨dir, name, among, same⟩ := mem_targets target
  have named := Header.fileOf_isName name
  refine ⟨dir, name, among, ?_, same ▸ dir.endsIn_join_single named⟩
  rw [same, FileTree.goal_join_single, FileTree.step_of_isName _ named]

theorem generated_spread {suffix : String} (ending : ∃ stem, suffix = stem ++ ".tmp")
    {tree : FileTree} {config : BuildConfig} {i : Intake} {registry : Bool}
    (distinct : ((generated config i registry).map fun f => tree.goal f.1).Nodup) :
    Spread suffix tree.goal ((generated config i registry).map (·.1)) where
  named t member := by
    obtain ⟨f, inside, rfl⟩ := List.mem_map.mp member
    obtain ⟨stem, ends⟩ := generated_endsIn inside
    exact ⟨_, ends⟩
  distinct := by
    rwa [List.map_map]
  apart t member inside := by
    obtain ⟨f, first, rfl⟩ := List.mem_map.mp member
    rw [List.map_map] at inside
    obtain ⟨g, second, same⟩ := List.mem_map.mp inside
    obtain ⟨stem, ends⟩ := generated_endsIn first
    obtain ⟨stem', ends'⟩ := generated_endsIn second
    rw [Function.comp_apply] at same
    obtain ⟨parent, _, goal⟩ := tree.goal_parent ends'
    rw [FileTree.goal_temporary tree _ ends, goal] at same
    have last := congrArg List.getLast? same
    rw [List.getLast?_concat, List.getLast?_concat, Option.some.injEq] at last
    exact Header.fileOf_ne_hidden ending stem' _ last

section
variable {suffix : String} {config : BuildConfig} {i : Intake} {tree : FileTree}

theorem publishHeaders_settles {o : Output}
    (spread : Spread suffix tree.goal ((generated config i false).map (·.1)))
    (success : publishHeaders suffix config i tree = (.ok (), o)) :
    Settles suffix (.start tree) o (generated config i false) := by
  unfold publishHeaders at success
  dsimp only at success
  split at success
  · cases success
  case h_2 middle published =>
    rw [generated, if_neg Bool.false_ne_true, List.append_nil] at spread ⊢
    have parts := spread
    rw [List.map_append] at parts
    have first := Output.publishAll_settles suffix _ _ (.start tree) middle parts.left published
    have same : middle.tree.goal = tree.goal := funext first.confined.keeps.goal
    exact first.append (Output.publishAll_settles suffix _ _ _ o (same ▸ parts.right) success) spread

theorem publishByteCodes_settles {c : Catalog} {dir : Path} {o last : Output}
    (spread : Spread suffix o.tree.goal
      ((if c.hasFailed then [] else Output.filesIn dir [Header.byteCodes c.jobs]).map (·.1)))
    (success : publishByteCodes suffix dir c o = (.ok (), last)) :
    Settles suffix o last
      (if c.hasFailed then [] else Output.filesIn dir [Header.byteCodes c.jobs]) := by
  unfold publishByteCodes at success
  split at success
  case isTrue failed =>
    cases success
    rw [if_pos failed]
    exact Output.settles_nil suffix o.log (Confined.refl o.tree)
  case isFalse clean =>
    rw [if_neg clean] at spread ⊢
    exact Output.publishAll_settles suffix dir _ o last spread success

theorem Course.settles {σ : Type} {runner : Runner (FileTree × σ)} {state : σ}
    {r : Compile.Result (FileTree × σ)} {last : Output}
    (course : Course suffix config runner tree state i r last)
    (still : ∀ call s, (runner call s).2.1 = s.1)
    (spread : Spread suffix tree.goal ((generated config i (!r.catalog.hasFailed)).map (·.1))) :
    Settles suffix (.start tree) last (generated config i (!r.catalog.hasFailed)) ∧
      last.tree.Standing config.compiler.outputDir := by
  rw [generated_append config i r.catalog course.jobs] at spread ⊢
  have parts := spread
  rw [List.map_append] at parts
  obtain ⟨o, made, lines, headers, prepared, outcome, ended⟩ := course.steps
  have untouched : r.state.1 = made := by
    rw [outcome]
    exact Compile.run_still _ runner _ _ _ Prod.fst still
  have directories : Confined o.tree r.state.1 [] := by
    have confined := FileTree.makeMissing_confined config.compiler.outputDir.pieces.length o.tree
      config.compiler.outputDir
    rw [FileTree.makeDirectories] at prepared
    rwa [prepared, ← untouched] at confined
  have first := (publishHeaders_settles parts.left headers).append
    (Output.settles_nil suffix lines directories) (by rw [List.append_nil]; exact parts.left)
  rw [List.append_nil] at first
  have same : r.state.1.goal = tree.goal := funext first.confined.keeps.goal
  have second := publishByteCodes_settles (o := { o with tree := r.state.1, log := lines })
    (same ▸ parts.right) ended
  have stands := FileTree.makeDirectories_stands prepared
  rw [← untouched] at stands
  exact ⟨first.append second spread, stands.kept second.confined.keeps⟩

theorem publishHeaders_of_rests (rests : Rests suffix tree (generated config i false)) :
    ∃ log, publishHeaders suffix config i tree =
      (.ok (), ⟨tree, [], (generated config i false).map (·.1), log⟩) := by
  rw [generated, if_neg Bool.false_ne_true, List.append_nil] at rests ⊢
  obtain ⟨log, first⟩ := Output.publishAll_of_rests suffix _ _ (.start tree) fun f member =>
    rests f (List.mem_append_left _ member)
  obtain ⟨log', second⟩ := Output.publishAll_of_rests suffix config.declaredDir
    (i.catalog.declaredHeaders i.types) ⟨tree, [], _, log⟩ fun f member =>
      rests f (List.mem_append_right _ member)
  refine ⟨log', ?_⟩
  rw [publishHeaders, first]
  dsimp only [Output.start] at second ⊢
  rw [second, List.nil_append, List.map_append]

theorem publishByteCodes_of_rests {c : Catalog} {dir : Path} {o : Output}
    (rests : Rests suffix o.tree
      (if c.hasFailed then [] else Output.filesIn dir [Header.byteCodes c.jobs])) :
    ∃ log, publishByteCodes suffix dir c o = (.ok (), { o with
      unchanged := o.unchanged ++
        (if c.hasFailed then [] else Output.filesIn dir [Header.byteCodes c.jobs]).map (·.1)
      log }) := by
  unfold publishByteCodes
  split
  case isTrue failed => exact ⟨o.log, by rw [List.map_nil, List.append_nil]⟩
  case isFalse clean =>
    rw [if_neg clean] at rests
    exact Output.publishAll_of_rests suffix dir _ o rests

theorem publishHeaders_of_quiet (quiet : Quiet suffix tree (generated config i false))
    (restless : ¬Rests suffix tree (generated config i false)) :
    ∃ fault later, publishHeaders suffix config i tree = (.error fault, later) ∧
      Blocks suffix tree (generated config i false) fault := by
  rw [generated, if_neg Bool.false_ne_true, List.append_nil] at quiet restless ⊢
  obtain ⟨targets, declared⟩ := List.forall_mem_append.mp quiet
  by_cases rests : Rests suffix tree (Output.filesIn config.targetDir
      (i.catalog.targetHeaders i.types))
  · have rest : ¬Rests suffix tree (Output.filesIn config.declaredDir
        (i.catalog.declaredHeaders i.types)) :=
      fun all => restless (List.forall_mem_append.mpr ⟨rests, all⟩)
    obtain ⟨log, first⟩ := Output.publishAll_of_rests suffix _ _ (.start tree) rests
    obtain ⟨fault, later, stopped, blocks⟩ := Output.publishAll_of_quiet suffix config.declaredDir
      (i.catalog.declaredHeaders i.types) ⟨tree, [], _, log⟩ declared rest
    refine ⟨fault, later, ?_, blocks.mono (List.subset_append_right _ _)⟩
    rw [publishHeaders, first]
    exact stopped
  · obtain ⟨fault, later, stopped, blocks⟩ := Output.publishAll_of_quiet suffix config.targetDir
      (i.catalog.targetHeaders i.types) (.start tree) targets rests
    refine ⟨fault, later, ?_, blocks.mono (List.subset_append_left _ _)⟩
    rw [publishHeaders, stopped]

theorem publishByteCodes_of_quiet {c : Catalog} {dir : Path} {o : Output}
    (quiet : Quiet suffix o.tree
      (if c.hasFailed then [] else Output.filesIn dir [Header.byteCodes c.jobs]))
    (restless : ¬Rests suffix o.tree
      (if c.hasFailed then [] else Output.filesIn dir [Header.byteCodes c.jobs])) :
    ∃ fault later, publishByteCodes suffix dir c o = (.error fault, later) ∧
      Blocks suffix o.tree
        (if c.hasFailed then [] else Output.filesIn dir [Header.byteCodes c.jobs]) fault := by
  unfold publishByteCodes
  split
  case isTrue failed =>
    rw [if_pos failed] at restless
    exact absurd (by simp [Rests]) restless
  case isFalse clean =>
    rw [if_neg clean] at quiet restless
    exact Output.publishAll_of_quiet suffix dir _ o quiet restless

end

/-! ## The same outcome -/

/-- The report and the catalog in the end, where the compiler always gives the same replies. -/
def outcome (config : BuildConfig) (reply : Call → Except Fault Reply) (i : Intake) :
    Option Report × Catalog :=
  if config.compile then
    let r := Compile.run config.compiler (.ofReply reply) i.catalog i.catalog.jobs ()
    (some r.report, r.catalog)
  else (none, i.catalog)

abbrev outcomeFiles (config : BuildConfig) (reply : Call → Except Fault Reply) (i : Intake) :
    List (Path × String) :=
  generated config i (config.compile && (outcome config reply i).2.failures.isEmpty)

section
variable {σ : Type} {suffix : String} {config : BuildConfig} {runner : Runner (FileTree × σ)}
  {reply : Call → Except Fault Reply} {tree : FileTree}
  (replies : ∀ call s, (runner call s).1.result = reply call)
  (still : ∀ call s, (runner call s).2.1 = s.1)
include replies still

omit still in
theorem outcome_of_compile (compiles : config.compile = true) (start : FileTree × σ) (i : Intake) :
    outcome config reply i =
      (some (Compile.run config.compiler runner i.catalog i.catalog.jobs start).report,
        (Compile.run config.compiler runner i.catalog i.catalog.jobs start).catalog) := by
  obtain ⟨catalogs, reports⟩ := Compile.run_of_replies config.compiler runner i.catalog
    i.catalog.jobs start (.ofReply reply) () fun call a b => replies call a
  rw [outcome, if_pos compiles, catalogs, reports]

/-- A build that comes to its end leaves everything settled that it has made. -/
theorem run_settles {state : σ} {summary : Summary} (ending : ∃ stem, suffix = stem ++ ".tmp")
    (success : (run suffix config runner tree state).result = .ok summary)
    (distinct : ∀ i, (intake tree config.sourceDir).1 = .ok i →
      ((generated config i (config.compile && summary.failures.isEmpty)).map
        fun f => tree.goal f.1).Nodup) :
    ∃ i last, (intake tree config.sourceDir).1 = .ok i ∧
      summary = ⟨last.written, last.unchanged, (outcome config reply i).1,
        (outcome config reply i).2.failures⟩ ∧
      (run suffix config runner tree state).tree = last.tree ∧
      Settles suffix (.start tree) last (outcomeFiles config reply i) ∧
      (config.compile = true → last.tree.Standing config.compiler.outputDir) := by
  cases compiles : config.compile with
  | false =>
    obtain ⟨i, o, lines, taken, headers, whole⟩ :=
      run_idle suffix config runner tree state summary compiles success
    rw [whole] at success
    cases success
    have spread := generated_spread ending (distinct i taken)
    rw [compiles, Bool.false_and] at spread
    have settles := (publishHeaders_settles spread headers).append
      (Output.settles_nil suffix lines (Confined.refl o.tree)) (by rwa [List.append_nil])
    rw [List.append_nil] at settles
    have idle : outcome config reply i = (none, i.catalog) := by
      rw [outcome, compiles, if_neg Bool.false_ne_true]
    refine ⟨i, { o with log := lines }, taken, ?_, ?_, ?_, nofun⟩
    · rw [idle]
    · rw [whole]
      rfl
    · rwa [outcomeFiles, compiles, Bool.false_and]
  | true =>
    obtain ⟨i, r, last, course⟩ :=
      run_course suffix config runner tree state summary compiles success
    rw [course.whole] at success
    cases success
    have spread := generated_spread ending (distinct i course.taken)
    have flag : (true && r.catalog.failures.isEmpty) = !r.catalog.hasFailed := by
      rw [Bool.true_and, Bool.eq_iff_iff, List.isEmpty_iff, ← course.clear, Bool.not_eq_true']
    have ends : outcome config reply i = (some r.report, r.catalog) := by
      obtain ⟨made, rfl⟩ := course.compiled
      exact outcome_of_compile replies compiles _ i
    rw [compiles, flag] at spread
    obtain ⟨settles, stands⟩ := course.settles still spread
    refine ⟨i, last, course.taken, ?_, ?_, ?_, fun _ => stands⟩
    · rw [ends]
    · rw [course.whole]
      rfl
    · rwa [outcomeFiles, compiles, ends, flag]

/-- What a build makes when it runs the compiler, and that the compiler leaves the tree alone. -/
theorem outcomeFiles_of_compile (compiles : config.compile = true) {i : Intake} (state : σ)
    (taken : (intake tree config.sourceDir).1 = .ok i) :
    let r := Compile.run config.compiler runner i.catalog i.catalog.jobs (tree, state)
    r.state.1 = tree ∧ outcome config reply i = (some r.report, r.catalog) ∧
      outcomeFiles config reply i = generated config i false ++
        if r.catalog.hasFailed then [] else
          Output.filesIn config.compiler.outputDir [Header.byteCodes r.catalog.jobs] := by
  intro r
  have flag := ((intake_reaches tree config.sourceDir i taken).sound Catalog.empty_sound).flag
  have ends : outcome config reply i = (some r.report, r.catalog) :=
    outcome_of_compile replies compiles (tree, state) i
  have jobs : r.catalog.jobs = i.catalog.jobs := Compile.run_jobs _ _ _ _ _ flag
  have clear : (true && r.catalog.failures.isEmpty) = !r.catalog.hasFailed := by
    rw [Compile.run_flag config.compiler runner i.catalog i.catalog.jobs (tree, state) flag,
      Bool.true_and, Bool.not_not]
  refine ⟨Compile.run_still _ runner _ _ _ Prod.fst still, ends, ?_⟩
  rw [outcomeFiles, compiles, ends, clear, generated_append config i r.catalog jobs]

omit replies still in
theorem outcomeFiles_of_idle (idle : config.compile = false)
    (reply : Call → Except Fault Reply) (i : Intake) :
    outcome config reply i = (none, i.catalog) ∧
      outcomeFiles config reply i = generated config i false := by
  have ends : outcome config reply i = (none, i.catalog) := by
    rw [outcome, idle, if_neg Bool.false_ne_true]
  refine ⟨ends, ?_⟩
  rw [outcomeFiles, idle, Bool.false_and]

/-- Where everything is settled, a build changes nothing and lists all as unchanged. -/
theorem run_of_rests {i : Intake} (state : σ) (taken : (intake tree config.sourceDir).1 = .ok i)
    (rests : Rests suffix tree (outcomeFiles config reply i))
    (stands : config.compile = true → tree.Standing config.compiler.outputDir) :
    (run suffix config runner tree state).result =
      .ok ⟨[], (outcomeFiles config reply i).map (·.1), (outcome config reply i).1,
        (outcome config reply i).2.failures⟩ ∧
      (run suffix config runner tree state).tree = tree := by
  obtain ⟨log, started⟩ : ∃ log, intake tree config.sourceDir = (.ok i, log) :=
    ⟨_, Prod.ext taken rfl⟩
  cases compiles : config.compile with
  | false =>
    obtain ⟨ends, files⟩ := outcomeFiles_of_idle compiles reply i
    rw [files] at rests ⊢
    obtain ⟨lines, headers⟩ := publishHeaders_of_rests rests
    simp only [run, started, headers, compiles, Bool.false_eq_true, if_false, finish, ends,
      true_and]
  | true =>
    obtain ⟨untouched, ends, files⟩ := outcomeFiles_of_compile replies still compiles state taken
    generalize compiled : Compile.run config.compiler runner i.catalog i.catalog.jobs
      (tree, state) = r at untouched ends files
    rw [files] at rests ⊢
    obtain ⟨front, back⟩ := List.forall_mem_append.mp rests
    obtain ⟨lines, headers⟩ := publishHeaders_of_rests front
    have made := (stands compiles).makeDirectories
    obtain ⟨lines', ended⟩ := publishByteCodes_of_rests (c := r.catalog)
      (o := ⟨r.state.1, [], (generated config i false).map (·.1), i.log ++ lines ++ r.log⟩)
      (untouched.symm ▸ back)
    simp only [run, started, headers, compiles, if_true, compile, made, compiled, ended, finish,
      ends, List.map_append, true_and]
    exact untouched

/-- Where everything is settled but not at rest, a directory under a temporary name ends the
build. -/
theorem run_of_quiet {i : Intake} (state : σ) (taken : (intake tree config.sourceDir).1 = .ok i)
    (quiet : Quiet suffix tree (outcomeFiles config reply i))
    (restless : ¬Rests suffix tree (outcomeFiles config reply i))
    (stands : config.compile = true → tree.Standing config.compiler.outputDir) :
    ∃ fault, (run suffix config runner tree state).result = .error (.fault fault) ∧
      Blocks suffix tree (outcomeFiles config reply i) fault := by
  obtain ⟨log, started⟩ : ∃ log, intake tree config.sourceDir = (.ok i, log) :=
    ⟨_, Prod.ext taken rfl⟩
  cases compiles : config.compile with
  | false =>
    obtain ⟨_, files⟩ := outcomeFiles_of_idle compiles reply i
    rw [files] at quiet restless ⊢
    obtain ⟨fault, later, headers, blocks⟩ := publishHeaders_of_quiet quiet restless
    refine ⟨fault, ?_, blocks⟩
    simp only [run, started, headers]
  | true =>
    obtain ⟨untouched, ends, files⟩ := outcomeFiles_of_compile replies still compiles state taken
    generalize compiled : Compile.run config.compiler runner i.catalog i.catalog.jobs
      (tree, state) = r at untouched ends files
    rw [files] at quiet restless ⊢
    obtain ⟨front, back⟩ := List.forall_mem_append.mp quiet
    by_cases rests : Rests suffix tree (generated config i false)
    · obtain ⟨lines, headers⟩ := publishHeaders_of_rests rests
      have made := (stands compiles).makeDirectories
      have last := fun all => restless (List.forall_mem_append.mpr ⟨rests, all⟩)
      obtain ⟨fault, later, ended, blocks⟩ := publishByteCodes_of_quiet (c := r.catalog)
        (o := ⟨r.state.1, [], (generated config i false).map (·.1), i.log ++ lines ++ r.log⟩)
        (untouched.symm ▸ back) (untouched.symm ▸ last)
      refine ⟨fault, ?_, Blocks.mono (untouched ▸ blocks) (List.subset_append_right _ _)⟩
      simp only [run, started, headers, compiles, if_true, compile, made, compiled, ended]
    · obtain ⟨fault, later, headers, blocks⟩ := publishHeaders_of_quiet front rests
      refine ⟨fault, ?_, blocks.mono (List.subset_append_left _ _)⟩
      simp only [run, started, headers]

/-- After a build that has come to its end, the next one takes in the same and finds all of it
settled. -/
theorem rerun_quiet {state : σ} {summary : Summary} (ending : ∃ stem, suffix = stem ++ ".tmp")
    (success : (run suffix config runner tree state).result = .ok summary)
    (distinct : ∀ i, (intake tree config.sourceDir).1 = .ok i →
      ((generated config i (config.compile && summary.failures.isEmpty)).map
        fun f => tree.goal f.1).Nodup)
    (outside : ∀ i, (intake tree config.sourceDir).1 = .ok i →
      ∀ f ∈ generated config i (config.compile && summary.failures.isEmpty),
        ∀ name, tree.goal f.1 ≠ tree.goal config.sourceDir ++ [name]) :
    let later := (run suffix config runner tree state).tree
    ∃ i, (intake later config.sourceDir).1 = .ok i ∧
      summary.report = (outcome config reply i).1 ∧
      summary.failures = (outcome config reply i).2.failures ∧
      (summary.written ++ summary.unchanged).Perm ((outcomeFiles config reply i).map (·.1)) ∧
      Quiet suffix later (outcomeFiles config reply i) ∧ later.goal = tree.goal ∧
      (config.compile = true → later.Standing config.compiler.outputDir) := by
  intro later
  obtain ⟨i, last, taken, ends, tree', settles, stands⟩ :=
    run_settles replies still ending success distinct
  have listed : (summary.written ++ summary.unchanged).Perm
      ((outcomeFiles config reply i).map (·.1)) := by
    rw [ends]
    exact settles.listed
  have failures : summary.failures = (outcome config reply i).2.failures := by rw [ends]
  rw [failures] at outside
  have confined := settles.confined
  have same : last.tree.goal = tree.goal := funext confined.keeps.goal
  have apart : ∀ place ∈ Output.places suffix tree.goal ((outcomeFiles config reply i).map (·.1)),
      ∀ name, place ≠ tree.goal config.sourceDir ++ [name] := by
    intro place inside name here
    rw [Output.places, List.mem_append, List.map_map, List.map_map] at inside
    rcases inside with goal | temp
    · obtain ⟨f, member, rfl⟩ := List.mem_map.mp goal
      exact outside i taken f member name here
    · -- a temporary file is in the directory of its target
      obtain ⟨f, member, rfl⟩ := List.mem_map.mp temp
      obtain ⟨stem, named⟩ := generated_endsIn member
      obtain ⟨parent, _, goal⟩ := tree.goal_parent named
      rw [Function.comp_apply, FileTree.goal_temporary tree suffix named, goal,
        List.dropLast_concat] at here
      apply outside i taken f member (Header.fileOf stem)
      rw [goal, List.append_inj_left' here rfl]
  have taken' := intake_of_confined confined apart taken
  have quiet : Quiet suffix last.tree (outcomeFiles config reply i) := fun f member =>
    ⟨settles.settled f member, by rw [same]; exact settles.clear f member⟩
  rw [← tree'] at taken' quiet same stands
  exact ⟨i, taken', by rw [ends], failures, listed, quiet, same, stands⟩

end

/-- Where a target has a directory under its temporary name after the first build, the second one
is refused. -/
theorem rerun_blocked {σ : Type} (suffix : String) (config : BuildConfig)
    (runner : Runner (FileTree × σ)) (tree : FileTree) (state state' : σ) (summary : Summary)
    (success : (run suffix config runner tree state).result = .ok summary)
    (replies : ∃ reply : Call → Except Fault Reply,
      ∀ call s, (runner call s).1.result = reply call)
    (still : ∀ call s, (runner call s).2.1 = s.1)
    (distinct : ∀ i, (intake tree config.sourceDir).1 = .ok i →
      ((generated config i (config.compile && summary.failures.isEmpty)).map
        fun f => tree.goal f.1).Nodup)
    (outside : ∀ i, (intake tree config.sourceDir).1 = .ok i →
      ∀ f ∈ generated config i (config.compile && summary.failures.isEmpty),
        ∀ name, tree.goal f.1 ≠ tree.goal config.sourceDir ++ [name])
    (ending : ∃ stem, suffix = stem ++ ".tmp")
    (blocked : ∃ target ∈ summary.written ++ summary.unchanged,
      FileTree.entry? (run suffix config runner tree state).tree
        (tree.goal (temporary suffix target)) = some .directory) :
    let later := (run suffix config runner tree state).tree
    ∃ target ∈ summary.written ++ summary.unchanged,
      later.entry? (tree.goal (temporary suffix target)) = some .directory ∧
        (run suffix config runner later state').result =
          .error (.fault (FileTree.fileFault (temporary suffix target) .isDirectory)) := by
  obtain ⟨reply, replies⟩ := replies
  obtain ⟨i, taken, _, _, listed, quiet, same, stands⟩ :=
    rerun_quiet replies still ending success distinct outside
  intro later
  have restless : ¬Rests suffix later (outcomeFiles config reply i) := by
    intro rests
    obtain ⟨target, member, found⟩ := blocked
    obtain ⟨f, inside, rfl⟩ := List.mem_map.mp (listed.mem_iff.mp member)
    have vacant := (rests f inside).2
    rw [same] at vacant
    cases vacant.symm.trans found
  obtain ⟨fault, stopped, f, member, found, rfl⟩ :=
    run_of_quiet replies still state' taken quiet restless stands
  rw [same] at found
  exact ⟨f.1, listed.mem_iff.mpr (List.mem_map_of_mem member), found, stopped⟩

/-- To build again changes nothing. After a build that has come to its end, whatever has failed in
it, another one with the same settings comes to its end as well, writes nothing, leaves the whole
tree as it is, lists as unchanged all that the first has written or found unchanged, and ends with
the same report and the same failures. The targets must go to different files outside the directory
of the sources, and the second build must be able to use the temporary names of the first. -/
theorem rerun_unchanged {σ : Type} (suffix : String) (config : BuildConfig)
    (runner : Runner (FileTree × σ)) (tree : FileTree) (state state' : σ) (summary : Summary)
    (_sequential : config.compiler.parallelJobs ≤ 1)
    (success : (run suffix config runner tree state).result = .ok summary)
    (replies : ∃ reply : Call → Except Fault Reply,
      ∀ call s, (runner call s).1.result = reply call)
    (still : ∀ call s, (runner call s).2.1 = s.1)
    (distinct : ∀ i, (intake tree config.sourceDir).1 = .ok i →
      ((generated config i (config.compile && summary.failures.isEmpty)).map
        fun f => tree.goal f.1).Nodup)
    (outside : ∀ i, (intake tree config.sourceDir).1 = .ok i →
      ∀ f ∈ generated config i (config.compile && summary.failures.isEmpty),
        ∀ name, tree.goal f.1 ≠ tree.goal config.sourceDir ++ [name])
    (ending : ∃ stem, suffix = stem ++ ".tmp")
    (usable : ∀ target ∈ summary.written ++ summary.unchanged,
      FileTree.entry? (run suffix config runner tree state).tree
        (tree.goal (temporary suffix target)) ≠ some .directory) :
    let later := (run suffix config runner tree state).tree
    let again := run suffix config runner later state'
    ∃ unchanged, again.result = .ok ⟨[], unchanged, summary.report, summary.failures⟩ ∧
      unchanged.Perm (summary.written ++ summary.unchanged) ∧ again.tree = later := by
  obtain ⟨reply, replies⟩ := replies
  obtain ⟨i, taken, report, failures, listed, quiet, same, stands⟩ :=
    rerun_quiet replies still ending success distinct outside
  have rests : Rests suffix (run suffix config runner tree state).tree
      (outcomeFiles config reply i) := quiet.rests fun f member => by
    rw [same]
    exact usable f.1 (listed.mem_iff.mpr (List.mem_map_of_mem member))
  intro later again
  obtain ⟨result, still'⟩ := run_of_rests replies still state' taken rests stands
  refine ⟨(outcomeFiles config reply i).map (·.1), ?_, listed.symm, still'⟩
  rw [report, failures]
  exact result

theorem intake_broken {tree : FileTree} (there : tree.entry? ["a.json"] = some (.file "[".toUTF8))
    (listed : tree.descriptionFiles ⟨["", ""]⟩ = .ok [⟨["", "a.json"]⟩]) :
    ∃ i, (intake tree ⟨["", ""]⟩).1 = .ok i ∧ i.catalog.ownNames = presets.catalog.ownNames ∧
      i.catalog.failures ≠ [] := by
  obtain ⟨fault, unread⟩ : ∃ fault, Description.ofFile tree ⟨["", "a.json"]⟩ = .error fault := by
    rw [Description.ofFile_rooted ⟨rfl, by decide⟩ (by decide) (by decide) there]
    exact ⟨_, rfl⟩
  have one : fates tree ⟨["", ""]⟩ = [(⟨["", "a.json"]⟩, .unread fault)] := by
    simp only [fates, listed, Intake.fates, Intake.fatesFrom, unread]
  obtain ⟨i, taken⟩ : ∃ i, (intake tree ⟨["", ""]⟩).1 = .ok i := by
    refine ⟨_, intake_eq_ok.mpr ⟨_, listed, rfl, ?_⟩⟩
    simp only [Intake.takeFiles, Intake.read, unread]
    rfl
  have accounts := (intake_accounts tree ⟨["", ""]⟩ i taken).2
  refine ⟨i, taken, ?_, ?_⟩
  · rw [Catalog.ownNames, accounts.structures, accounts.interfaces, one]
    simp only [List.flatMap_cons, List.flatMap_nil, Intake.Fate.structures, Intake.Fate.interfaces,
      List.append_nil, Catalog.ownNames]
  · rw [accounts.failures, one]
    simp [Intake.messages, Intake.Fate.message]

theorem rerun_unchanged_after_failure :
    let tree : FileTree := ⟨[(["a.json"], .file "[".toUTF8), (["cpp"], .directory),
      (["cpp", ".IMGUI.h.tmp"], .file "stale".toUTF8), (["hlsl"], .directory),
      (["out"], .directory)], []⟩
    let config : BuildConfig := ⟨⟨["", ""]⟩, ⟨["", "cpp"]⟩, ⟨["", "hlsl"]⟩,
      { CompilerSettings.standard with outputDir := ⟨["", "out"]⟩ }, true⟩
    let runner : Runner (FileTree × Nat) := fun _ s => (⟨.ok .silent, []⟩, s.1, s.2 + 1)
    let later := (run ".tmp" config runner tree 0).tree
    let again := run ".tmp" config runner later 0
    ∃ summary unchanged, (run ".tmp" config runner tree 0).result = .ok summary ∧
      summary.failures ≠ [] ∧
      again.result = .ok ⟨[], unchanged, summary.report, summary.failures⟩ ∧
      unchanged.Perm (summary.written ++ summary.unchanged) ∧ again.tree = later := by
  intro tree config runner later again
  have leads : tree.Leads ⟨["", "a.json"]⟩ ["a.json"] :=
    FileTree.leads_rooted tree ⟨rfl, by decide⟩ (by decide) (by decide)
  have listed : tree.descriptionFiles ⟨["", ""]⟩ = .ok [⟨["", "a.json"]⟩] := by
    have found : tree.find ⟨["", ""]⟩ = .ok ([], .directory) := by
      rw [FileTree.find_iff]
      exact ⟨⟨[], [""], FileTree.start_rooted _ (by decide) (by decide), rfl⟩, rfl⟩
    have names : tree.list ⟨["", ""]⟩ = .ok ["a.json", "cpp", "hlsl", "out"] := by
      simp only [FileTree.list, found]
      rfl
    have regular : tree.isFile ⟨["", "a.json"]⟩ = true := by
      have there := (FileTree.find_iff tree _ _ _).mpr ⟨leads, rfl⟩
      simp only [FileTree.isFile, there]
    have ending : Path.extension? ⟨["", "a.json"]⟩ = some "json" := by decide
    have others : ∀ name ∈ ["cpp", "hlsl", "out"], Path.extension? ⟨["", name]⟩ = none := by decide
    simp only [List.forall_mem_cons] at others
    simp [FileTree.descriptionFiles, names, Path.root_join_single, regular, ending, others,
      FileTree.descriptionEnding, bind, Except.bind, pure, Except.pure]
  obtain ⟨i, taken, own, failed⟩ := @intake_broken tree rfl listed
  have sound := (intake_reaches tree ⟨["", ""]⟩ i taken).sound Catalog.empty_sound
  have fits := fits_standard
  rw [show (Preset.addAll Preset.standard .empty).1.ownNames = i.catalog.ownNames from own.symm]
    at fits
  have shallow (place : Place) (found : tree.entry? place = some .directory) :
      place.length ≤ 1 := by
    by_cases top : place = []
    · simp [top]
    · rw [FileTree.entry?_of_ne_nil _ top, List.lookup_eq_some_iff] at found
      obtain ⟨before, after, shape, _⟩ := found
      have member : (place, Entry.directory) ∈ tree.entries := by simp [shape]
      simp only [tree, List.mem_cons, Prod.mk.injEq, List.not_mem_nil, or_false, reduceCtorEq,
        and_false, and_true, false_or] at member
      rcases member with rfl | rfl | rfl <;> simp
  have reply : ∀ call s, (runner call s).1.result = .ok .silent := fun _ _ => rfl
  obtain ⟨⟨summary, success⟩, alike⟩ := run_below ".tmp" config runner tree 0 "cpp" "hlsl" "out"
    ⟨rfl, rfl, rfl⟩ (by
      simp only [List.forall_mem_cons]
      refine ⟨?_, ?_, ?_, by simp⟩ <;> exact ⟨rfl, ⟨rfl, by decide⟩, by decide, by decide⟩)
    (fun d _ file found => absurd (shallow _ found) (by simp)) i taken (fun _ _ => rfl) fits
  have plain (name : String) (own : name ∈ i.catalog.ownNames) : '/' ∉ name.toList :=
    (fits name (by simp [own])).unbroken
  have within (registry : Bool) (f : Path × String) (member : f ∈ generated config i registry) :
      ∃ d name, tree.goal f.1 = [d, Header.fileOf name] ∧ f.1.EndsIn (Header.fileOf name) := by
    obtain ⟨dir, name, among, goal, ends⟩ := generated_within tree sound plain member
    have below : ∃ d, tree.goal dir = [d] := by
      simp only [config, List.mem_cons, List.not_mem_nil, or_false] at among
      rcases among with rfl | rfl | rfl <;> exact ⟨_, rfl⟩
    obtain ⟨d, here⟩ := below
    exact ⟨d, name, by rw [goal, here]; rfl, ends⟩
  have distinct : ∀ i', (intake tree config.sourceDir).1 = .ok i' →
      ((generated config i' (config.compile && summary.failures.isEmpty)).map
        fun f => tree.goal f.1).Nodup := by
    intro i' taken'
    cases taken.symm.trans taken'
    have apart := targets_distinct tree config i.catalog summary.failures.isEmpty sound (by decide)
    rw [← generated_paths config i _ sound plain, List.map_map] at apart
    exact apart
  obtain ⟨unchanged, rest⟩ := rerun_unchanged ".tmp" config runner tree 0 0 summary (by decide)
    success ⟨_, reply⟩ (fun _ _ => rfl) distinct
    (by
      intro i' taken' f member name same
      cases taken.symm.trans taken'
      obtain ⟨d, file, goal, _⟩ := within _ f member
      rw [goal] at same
      cases same)
    ⟨"", rfl⟩
    (by
      intro target member found
      obtain ⟨i', last, taken', ends, _, settles, _⟩ :=
        run_settles reply (fun _ _ => rfl) ⟨"", rfl⟩ success distinct
      cases taken.symm.trans taken'
      rw [ends] at member
      obtain ⟨f, inside, rfl⟩ := List.mem_map.mp (settles.listed.mem_iff.mp member)
      obtain ⟨d, file, goal, named⟩ := within _ f inside
      have deep := shallow _ (alike.back.directories _ found)
      rw [FileTree.goal_temporary tree ".tmp" named, goal] at deep
      simp at deep)
  refine ⟨summary, unchanged, success, ?_, rest⟩
  obtain ⟨i', taken', same | ⟨none, _⟩⟩ := run_failures ".tmp" config runner tree 0 summary success
  · cases taken.symm.trans taken'
    rwa [same]
  · cases taken.symm.trans taken'
    exact absurd none failed

/-- A build can take a temporary name from the next one: here it makes a directory of that name
after it has published the header, and the next build cannot publish the header again. -/
theorem rerun_refused :
    let d : Description := ⟨none, nested, []⟩
    (∃ document, Description.Written d document) ∧
    ∀ document, Description.Written d document →
      let tree : FileTree := ⟨[(["src"], .directory), (["src", "a.json"], .file document.toUTF8),
        (["cpp"], .directory), (["hlsl"], .directory)], []⟩
      let config : BuildConfig :=
        ⟨⟨["", "src"]⟩, ⟨["", "cpp"]⟩, ⟨["", "hlsl"]⟩, .standard, false⟩
      let runner : Runner (FileTree × Unit) := .ofReply fun _ => .ok .silent
      let places : List Place := [["cpp", "-x.h"], ["cpp", ".-x.h.tmp", "z.h"],
        ["cpp", "ForwardLighting.h"], ["cpp", "IMGUI.h"], ["cpp", "shaderpermutations.h"],
        ["hlsl", "-x.h"], ["hlsl", ".-x.h.tmp", "z.h"], ["hlsl", "ForwardLighting.h"],
        ["hlsl", "IMGUI.h"]]
      let first := run ".tmp" config runner tree ()
      config.compiler.parallelJobs ≤ 1 ∧
      (∃ i, (intake tree config.sourceDir).1 = .ok i ∧
        (generated config i false).map (fun f => tree.goal f.1) = places) ∧
      (∃ summary, first.result = .ok summary) ∧
      ∃ temp, (run ".tmp" config runner first.tree ()).result =
        .error (.fault (FileTree.fileFault temp .isDirectory)) := by
  intro d
  have plain : d.Plain := by
    constructor <;> simp [d]
  refine ⟨Description.exists_written plain, fun document written => ?_⟩
  intro tree config runner places first
  obtain ⟨i, taken, own⟩ : ∃ i, (intake tree config.sourceDir).1 = .ok i ∧ i.catalog.ownNames =
      ["-x", ".-x.h.tmp/z", "ForwardLighting", "IMGUI"] :=
    intake_nested (nestedTree_files document) (nestedTree_read written)
  have paths := @generated_nested i own config rfl rfl
  have goals : (generated config i false).map (fun f => tree.goal f.1) = places := by
    have mapped := congrArg (List.map tree.goal) paths
    rwa [List.map_map] at mapped
  obtain ⟨o, headers, made⟩ := @publishHeaders_nested i own config tree rfl rfl
    (by simp only [List.forall_mem_cons]; exact ⟨rfl, rfl, by simp⟩)
    (by
      simp only [List.forall_mem_cons]
      refine ⟨?_, ?_, by simp⟩ <;> simp [tree, FileTree.entry?, List.lookup_cons])
  obtain ⟨log, started⟩ : ∃ log, intake tree config.sourceDir = (.ok i, log) :=
    ⟨_, Prod.ext taken rfl⟩
  have ended : first = finish { o with log := i.log ++ o.log } i.catalog none () := by
    simp only [first, run, started, headers, config, Bool.false_eq_true, if_false]
  have success : first.result = .ok ⟨o.written, o.unchanged, none, i.catalog.failures⟩ := by
    rw [ended]
    rfl
  have distinct : ((generated config i false).map fun f => tree.goal f.1).Nodup := by
    rw [goals]
    decide
  have listed := (publishHeaders_settles (generated_spread ⟨"", rfl⟩ distinct) headers).listed
  rw [paths] at listed
  have same : ∀ i', (intake tree config.sourceDir).1 = .ok i' →
      (generated config i' (config.compile && i.catalog.failures.isEmpty)).map
        (fun f => tree.goal f.1) = places := by
    intro i' taken'
    cases taken.symm.trans taken'
    exact goals
  obtain ⟨target, _, _, refused⟩ := rerun_blocked ".tmp" config runner tree () () _ success
    ⟨_, fun _ _ => rfl⟩ (fun _ _ => rfl)
    (fun i' taken' => by
      rw [same i' taken']
      decide)
    (fun i' taken' f member name here => by
      have inside := List.mem_map_of_mem (f := fun f => tree.goal f.1) member
      rw [same i' taken', here] at inside
      have apart : ∀ place ∈ places, place.head? ≠ some "src" := by decide
      exact apart _ inside rfl)
    ⟨"", rfl⟩
    ⟨⟨["", "cpp", "-x.h"]⟩, listed.mem_iff.mpr (List.mem_append_right _ List.mem_cons_self), by
      rw [show first.tree = o.tree by rw [ended]; rfl]
      exact made⟩
  exact ⟨by decide, ⟨i, taken, goals⟩, ⟨_, success⟩, _, refused⟩

end Build
end ShaderVariants
