import ShaderVariants.Build.Basic
import ShaderVariants.Proofs.CompileRun
import ShaderVariants.Proofs.Intake
import ShaderVariants.Proofs.Outputs
import ShaderVariants.Proofs.Presets

/-!
Whole builds. Every build starts from the standard presets, so it has something to compile, and
its failures are those of description files until the compiler runs. The registry of compiled
code is published exactly by the builds that end without failures.
-/

namespace ShaderVariants

/-- Whether a path is among those of a summary, by its components. -/
def Summary.Lists (s : Summary) (path : Path) : Prop :=
  ∃ target ∈ s.written ++ s.unchanged, target.components = path.components

namespace Build

/-! ## Intake -/

def failedFiles (tree : FileTree) (dir : Path) : List Path :=
  let (catalog, log) := Preset.addAll Preset.standard .empty
  match tree.descriptionFiles dir with
  | .error _ => []
  | .ok paths => Intake.failedFiles tree (.start catalog (log ++ [foundLine dir paths])) paths

theorem intake_eq_ok {tree : FileTree} {dir : Path} {i : Intake} :
    (intake tree dir).1 = .ok i ↔ ∃ paths, tree.descriptionFiles dir = .ok paths ∧
      i = Intake.takeFiles tree (.start (Preset.addAll Preset.standard .empty).1
        ((Preset.addAll Preset.standard .empty).2 ++ [foundLine dir paths])) paths ∧
      i.overflowed = false := by
  cases listed : tree.descriptionFiles dir with
  | error e => simp [intake, listed]
  | ok paths =>
    simp only [intake, listed, Except.ok.injEq, exists_eq_left']
    split
    case isTrue overflowed =>
      refine iff_of_false nofun ?_
      rintro ⟨rfl, fits⟩
      rw [overflowed] at fits
      cases fits
    case isFalse fits =>
      rw [Bool.not_eq_true] at fits
      constructor
      · intro same
        cases same
        exact ⟨rfl, fits⟩
      · rintro ⟨rfl, _⟩
        rfl

theorem intake_cases (tree : FileTree) (dir : Path) (i : Intake)
    (success : (intake tree dir).1 = .ok i) : ∃ paths start,
      tree.descriptionFiles dir = .ok paths ∧
      start.catalog = (Preset.addAll Preset.standard .empty).1 ∧
      i = Intake.takeFiles tree start paths ∧
      failedFiles tree dir = Intake.failedFiles tree start paths := by
  obtain ⟨paths, listed, rfl, _⟩ := intake_eq_ok.mp success
  refine ⟨paths, _, listed, rfl, rfl, ?_⟩
  simp only [failedFiles, listed]

theorem intake_reaches (tree : FileTree) (dir : Path) (i : Intake)
    (success : (intake tree dir).1 = .ok i) : Catalog.empty.Reaches i.catalog := by
  obtain ⟨paths, start, _, presets, rfl, _⟩ := intake_cases tree dir i success
  apply Catalog.Reaches.trans _ (Intake.takeFiles_reaches tree start paths)
  rw [presets]
  exact Preset.addAll_reaches _ _

theorem intake_failures (tree : FileTree) (dir : Path) (i : Intake)
    (success : (intake tree dir).1 = .ok i) :
    i.catalog.failures.length = (failedFiles tree dir).length := by
  obtain ⟨paths, start, _, presets, rfl, failed⟩ := intake_cases tree dir i success
  rw [Intake.takeFiles_failures, failed, presets, Preset.standard_taken.failures]
  exact Nat.zero_add _

theorem intake_jobs (tree : FileTree) (dir : Path) (i : Intake)
    (success : (intake tree dir).1 = .ok i) : i.catalog.jobs ≠ [] := by
  obtain ⟨paths, start, _, presets, rfl, _⟩ := intake_cases tree dir i success
  have sound : start.catalog.Sound := by
    rw [presets]
    exact (Preset.addAll_reaches _ _).sound Catalog.empty_sound
  have grown := ((Intake.takeFiles_reaches tree start paths).pending sound).length_le
  have two := Preset.standard_taken.pending
  rw [← presets] at two
  intro none
  have empty := congrArg List.length none
  rw [Catalog.jobs, List.length_mergeSort] at empty
  simp only [Catalog.empty, Preset.standard, List.length_cons, List.length_nil] at two empty
  omega

/-! ## Publishing -/

theorem publishHeaders_targets (suffix : String) (config : BuildConfig) (i : Intake)
    (tree : FileTree) (o : Output) (success : publishHeaders suffix config i tree = (.ok (), o))
    (path : Path) (member : path ∈ o.targets) : ∃ (dir : Path) (h : Header) (name : String),
      path = dir.join h.path ∧ name ∈ Header.keysName :: i.catalog.ownNames ∧
      h.file = Header.fileOf name := by
  unfold publishHeaders at success
  dsimp only at success
  split at success
  · cases success
  case h_2 middle published =>
    rw [Output.mem_publishAll_targets _ _ _ _ _ success] at member
    rcases member with earlier | ⟨h, inside, rfl⟩
    · rw [Output.mem_publishAll_targets _ _ _ _ _ published] at earlier
      rcases earlier with none | ⟨h, inside, rfl⟩
      · cases none
      · obtain ⟨name, own, file⟩ := i.catalog.targetHeaders_files i.types h inside
        exact ⟨_, h, name, rfl, own, file⟩
    · obtain ⟨name, own, file⟩ := i.catalog.declaredHeaders_files i.types h inside
      exact ⟨_, h, name, rfl, List.mem_cons_of_mem _ own, file⟩

def registryPath (config : BuildConfig) : Path :=
  config.compiler.outputDir.join (.ofText "shaderbytecodes.h")

theorem join_byteCodes_path (config : BuildConfig) (jobs : List Job) :
    config.compiler.outputDir.join (Header.byteCodes jobs).path = registryPath config := by
  have file : (Header.byteCodes jobs).file = "shaderbytecodes.h" := rfl
  rw [Header.path, file, registryPath]

theorem registryPath_endsIn (config : BuildConfig) :
    (registryPath config).EndsIn (Header.fileOf Header.byteCodesName) := by
  rw [← join_byteCodes_path config []]
  exact Header.join_path_endsIn config.compiler.outputDir rfl (by decide)

/-- No other header that a build publishes has the place of the registry. -/
theorem publishHeaders_apart (suffix : String) (config : BuildConfig) (i : Intake)
    (tree : FileTree) (o : Output) (success : publishHeaders suffix config i tree = (.ok (), o))
    (sound : i.catalog.Sound) (plain : ∀ name ∈ i.catalog.ownNames, '/' ∉ name.toList)
    (path : Path) (member : path ∈ o.targets) :
    path.components ≠ (registryPath config).components := by
  obtain ⟨dir, h, name, rfl, own, file⟩ :=
    publishHeaders_targets suffix config i tree o success path member
  intro same
  have unbroken : '/' ∉ name.toList := by
    rcases List.mem_cons.mp own with rfl | inside
    · decide
    · exact plain name inside
  have last := (Header.join_path_endsIn dir file unbroken).components_getLast?
  rw [same, (registryPath_endsIn config).components_getLast?] at last
  have reserved : name = Header.byteCodesName := by
    injection last with part
    injection part with text
    exact (Header.fileOf_injective text).symm
  rcases List.mem_cons.mp own with keys | inside
  · rw [keys] at reserved
    exact absurd reserved (by decide)
  · exact sound.unreserved inside (by simp [reserved, Catalog.reserved])

theorem publishByteCodes_failed (suffix : String) (dir : Path) (c : Catalog) (o last : Output)
    (failed : c.hasFailed = true) (success : publishByteCodes suffix dir c o = (.ok (), last)) :
    last = o := by
  rw [publishByteCodes, if_pos failed] at success
  cases success
  rfl

theorem publishByteCodes_clean (suffix : String) (config : BuildConfig) (c : Catalog)
    (o last : Output) (clear : c.hasFailed = false)
    (success : publishByteCodes suffix config.compiler.outputDir c o = (.ok (), last)) :
    registryPath config ∈ last.targets ∧
      last.tree.readFile (registryPath config) = .ok (Header.byteCodes c.jobs).content.toUTF8 := by
  rw [publishByteCodes, if_neg (by rw [clear]; exact Bool.false_ne_true)] at success
  constructor
  · rw [Output.mem_publishAll_targets _ _ _ _ _ success]
    exact Or.inr ⟨_, List.mem_singleton_self _, (join_byteCodes_path config c.jobs).symm⟩
  · have ends := registryPath_endsIn config
    rw [← join_byteCodes_path config c.jobs] at ends ⊢
    exact Output.publishAll_single_readFile _ _ _ _ _ ends success

/-! ## Compiling -/

section
variable {σ : Type} (suffix : String) (config : BuildConfig) (runner : Runner (FileTree × σ))
  (tree : FileTree) (state : σ)

/-- The course of a build that runs the compiler and comes to its end: what is taken in, what the
compiler makes of it, and all that is published. -/
structure Course (i : Intake) (r : Compile.Result (FileTree × σ)) (last : Output) : Prop where
  taken : (intake tree config.sourceDir).1 = .ok i
  steps : ∃ o made lines, publishHeaders suffix config i tree = (.ok (), o) ∧
    o.tree.makeDirectories config.compiler.outputDir = (.ok (), made) ∧
    r = Compile.run config.compiler runner i.catalog i.catalog.jobs (made, state) ∧
    publishByteCodes suffix config.compiler.outputDir r.catalog
      { o with tree := r.state.1, log := lines } = (.ok (), last)
  whole : run suffix config runner tree state = finish last r.catalog (some r.report) r.state.2

theorem run_course (summary : Summary) (compiles : config.compile = true)
    (success : (run suffix config runner tree state).result = .ok summary) :
    ∃ i r last, Course suffix config runner tree state i r last := by
  cases taken : intake tree config.sourceDir with
  | mk result log =>
    cases result with
    | error e =>
      simp only [run, taken] at success
      cases success
    | ok i =>
      cases published : publishHeaders suffix config i tree with
      | mk result o =>
        cases result with
        | error fault =>
          simp only [run, taken, published] at success
          cases success
        | ok _ =>
          cases prepared : o.tree.makeDirectories config.compiler.outputDir with
          | mk result made =>
            cases result with
            | error e =>
              simp only [run, taken, published, compiles, if_true, compile, prepared] at success
              cases success
            | ok _ =>
              generalize outcome : Compile.run config.compiler runner i.catalog i.catalog.jobs
                (made, state) = r
              cases ended : publishByteCodes suffix config.compiler.outputDir r.catalog
                  { o with tree := r.state.1, log := i.log ++ o.log ++ r.log } with
              | mk result last =>
                cases result with
                | error fault =>
                  simp only [run, taken, published, compiles, if_true, compile, prepared, outcome,
                    ended] at success
                  cases success
                | ok _ =>
                  refine ⟨i, r, last, by rw [taken],
                    ⟨o, made, _, published, prepared, outcome.symm, ended⟩, ?_⟩
                  simp only [run, taken, published, compiles, if_true, compile, prepared, outcome,
                    ended]

theorem run_idle (summary : Summary) (idle : config.compile = false)
    (success : (run suffix config runner tree state).result = .ok summary) :
    ∃ i o lines, (intake tree config.sourceDir).1 = .ok i ∧
      publishHeaders suffix config i tree = (.ok (), o) ∧
      run suffix config runner tree state =
        finish { o with log := lines } i.catalog none state := by
  cases taken : intake tree config.sourceDir with
  | mk result log =>
    cases result with
    | error e =>
      simp only [run, taken] at success
      cases success
    | ok i =>
      cases published : publishHeaders suffix config i tree with
      | mk result o =>
        cases result with
        | error fault =>
          simp only [run, taken, published] at success
          cases success
        | ok _ =>
          refine ⟨i, o, i.log ++ o.log, rfl, published, ?_⟩
          simp only [run, taken, published, idle, Bool.false_eq_true, if_false]

theorem compile_other (other : Runner (FileTree × σ)) (c : Catalog) (o : Output)
    (failed : c.hasFailed = true) :
    compile suffix config other c o state = compile suffix config runner c o state := by
  simp only [compile, Compile.run_skipped _ _ _ _ _ failed]

/-- A build with a file that fails never calls its runner. -/
theorem run_other (other : Runner (FileTree × σ))
    (failed : ∀ i, (intake tree config.sourceDir).1 = .ok i → i.catalog.hasFailed = true) :
    run suffix config other tree state = run suffix config runner tree state := by
  unfold run
  cases taken : intake tree config.sourceDir with
  | mk result log =>
    cases result with
    | error e => rfl
    | ok i =>
      have broken := failed i (by rw [taken])
      simp only [compile_other suffix config runner state other i.catalog _ broken]

namespace Course

variable {suffix config runner tree state} {i : Intake} {r : Compile.Result (FileTree × σ)}
  {last : Output} (course : Course suffix config runner tree state i r last)
include course

theorem compiled :
    ∃ made, r = Compile.run config.compiler runner i.catalog i.catalog.jobs (made, state) := by
  obtain ⟨_, made, _, _, _, outcome, _⟩ := course.steps
  exact ⟨made, outcome⟩

theorem published : ∃ o lines, publishHeaders suffix config i tree = (.ok (), o) ∧
    publishByteCodes suffix config.compiler.outputDir r.catalog
      { o with tree := r.state.1, log := lines } = (.ok (), last) := by
  obtain ⟨o, _, lines, headers, _, _, ended⟩ := course.steps
  exact ⟨o, lines, headers, ended⟩

theorem sound : i.catalog.Sound :=
  (intake_reaches tree config.sourceDir i course.taken).sound Catalog.empty_sound

theorem jobs : r.catalog.jobs = i.catalog.jobs := by
  obtain ⟨made, rfl⟩ := course.compiled
  exact Compile.run_jobs _ _ _ _ _ course.sound.flag

theorem clear : r.catalog.hasFailed = false ↔ r.catalog.failures = [] := by
  obtain ⟨made, rfl⟩ := course.compiled
  rw [Compile.run_flag _ _ _ _ _ course.sound.flag, Bool.not_eq_false', List.isEmpty_iff]

theorem clean : r.catalog.failures = [] ↔ ∀ o ∈ r.report.outcomes, o.status = .succeeded := by
  have nonempty := intake_jobs tree config.sourceDir i course.taken
  obtain ⟨made, rfl⟩ := course.compiled
  exact Compile.run_clean_iff _ _ _ _ _ course.sound.flag nonempty

theorem listed_iff (plain : ∀ name ∈ i.catalog.ownNames, '/' ∉ name.toList) :
    (∃ target ∈ last.targets, target.components = (registryPath config).components) ↔
      r.catalog.failures = [] := by
  obtain ⟨o, lines, headers, ended⟩ := course.published
  constructor
  · rintro ⟨target, member, here⟩
    by_contra broken
    have failed : r.catalog.hasFailed = true := by
      rw [← Bool.not_eq_false, course.clear]
      exact broken
    -- after a failure nothing is published but what was before the jobs
    cases publishByteCodes_failed _ _ _ _ last failed ended
    exact publishHeaders_apart suffix config i tree o headers course.sound plain target member here
  · intro none
    exact ⟨registryPath config,
      (publishByteCodes_clean _ config _ _ last (course.clear.mpr none) ended).1, rfl⟩

theorem content (none : r.catalog.failures = []) :
    last.tree.readFile (registryPath config) =
      .ok (Header.byteCodes i.catalog.jobs).content.toUTF8 := by
  obtain ⟨o, lines, headers, ended⟩ := course.published
  rw [← course.jobs]
  exact (publishByteCodes_clean _ config _ _ last (course.clear.mpr none) ended).2

theorem failed (failing : failedFiles tree config.sourceDir ≠ []) :
    i.catalog.hasFailed = true := by
  have count := intake_failures tree config.sourceDir i course.taken
  have nonempty := List.length_pos_iff.mpr failing
  rw [course.sound.flag, Bool.not_eq_true', List.isEmpty_eq_false_iff, ← List.length_pos_iff]
  omega

theorem skipped (failing : failedFiles tree config.sourceDir ≠ []) :
    (∀ o ∈ r.report.outcomes, o.status = .skipped) ∧ r.state.2 = state := by
  obtain ⟨made, rfl⟩ := course.compiled
  rw [Compile.run_skipped _ _ _ _ _ (course.failed failing)]
  refine ⟨?_, rfl⟩
  intro outcome member
  obtain ⟨j, _, rfl⟩ := List.mem_map.mp member
  rfl

end Course

/-- The registry of compiled code is published exactly by the builds without failures, which are
those whose jobs have all succeeded, and then lists all jobs; with a file that fails, nothing is
compiled. -/
theorem registry_published (summary : Summary) (compiles : config.compile = true)
    (_sequential : config.compiler.parallelJobs ≤ 1)
    (success : (run suffix config runner tree state).result = .ok summary)
    (plain : ∀ i, (intake tree config.sourceDir).1 = .ok i →
      ∀ name ∈ i.catalog.ownNames, '/' ∉ name.toList) :
    ∃ i report, (intake tree config.sourceDir).1 = .ok i ∧ summary.report = some report ∧
      report.outcomes.map (·.description) = i.catalog.jobs.map (·.description) ∧
      (summary.Lists (registryPath config) ↔ summary.failures = []) ∧
      (summary.failures = [] ↔ ∀ o ∈ report.outcomes, o.status = .succeeded) ∧
      (summary.Lists (registryPath config) →
        (run suffix config runner tree state).tree.readFile (registryPath config) =
          .ok (Header.byteCodes i.catalog.jobs).content.toUTF8) ∧
      (failedFiles tree config.sourceDir ≠ [] →
        (∀ o ∈ report.outcomes, o.status = .skipped) ∧
        (run suffix config runner tree state).state = state ∧
        ∀ other : Runner (FileTree × σ),
          run suffix config other tree state = run suffix config runner tree state) := by
  obtain ⟨i, r, last, course⟩ := run_course suffix config runner tree state summary compiles success
  have listed := course.listed_iff (plain i course.taken)
  rw [course.whole] at success
  cases success
  refine ⟨i, r.report, course.taken, rfl, ?_, listed, course.clean, ?_, ?_⟩
  · obtain ⟨made, rfl⟩ := course.compiled
    exact Compile.run_descriptions _ _ _ _ _
  · intro inside
    rw [course.whole]
    exact course.content (listed.mp inside)
  · intro failing
    obtain ⟨skipped, still⟩ := course.skipped failing
    refine ⟨skipped, ?_, ?_⟩
    · rw [course.whole]
      exact still
    · intro other
      apply run_other
      intro i' taken'
      cases course.taken.symm.trans taken'
      exact course.failed failing

end

/-! ## Builds that come to their end -/

theorem run_alike_of_open {σ : Type} (suffix : String) (config : BuildConfig)
    (runner : Runner (FileTree × σ)) (tree : FileTree) (state : σ) (i : Intake)
    (taken : (intake tree config.sourceDir).1 = .ok i)
    (still : ∀ call s, (runner call s).2.1 = s.1)
    (target : ∀ h ∈ i.catalog.targetHeaders i.types,
      FileTree.Open suffix tree (config.targetDir.join h.path))
    (declared : ∀ h ∈ i.catalog.declaredHeaders i.types,
      FileTree.Open suffix tree (config.declaredDir.join h.path))
    (output : ∃ place, tree.Leads config.compiler.outputDir place ∧
      tree.entry? place = some .directory)
    (registry : FileTree.Open suffix tree (registryPath config)) :
    (∃ summary, (run suffix config runner tree state).result = .ok summary) ∧
      tree.Alike (run suffix config runner tree state).tree := by
  obtain ⟨first, published, alike⟩ := Output.publishAll_of_open suffix config.targetDir
    (i.catalog.targetHeaders i.types) (.start tree) target
  obtain ⟨second, published', alike'⟩ := Output.publishAll_of_open suffix config.declaredDir
    (i.catalog.declaredHeaders i.types) first fun h member => (declared h member).alike alike
  have headers : publishHeaders suffix config i tree = (.ok (), second) := by
    simp only [publishHeaders, published, published']
  have same : tree.Alike second.tree := alike.trans alike'
  obtain ⟨log, started⟩ : ∃ log, intake tree config.sourceDir = (.ok i, log) :=
    ⟨(intake tree config.sourceDir).2, Prod.ext taken rfl⟩
  cases compiles : config.compile with
  | false =>
    simp only [run, started, headers, compiles, Bool.false_eq_true, if_false, finish]
    exact ⟨⟨_, rfl⟩, same⟩
  | true =>
    obtain ⟨place, leads, there⟩ := output
    have made := FileTree.makeDirectories_of_leads (leads.kept same.keeps)
      (same.keeps.directories place there)
    generalize outcome : Compile.run config.compiler runner i.catalog i.catalog.jobs
      (second.tree, state) = r
    have untouched : r.state.1 = second.tree := by
      rw [← outcome]
      exact Compile.run_still _ runner _ _ _ Prod.fst still
    obtain ⟨last, ended, alike''⟩ : ∃ last,
        publishByteCodes suffix config.compiler.outputDir r.catalog
          { second with tree := r.state.1, log := i.log ++ second.log ++ r.log } =
            (.ok (), last) ∧ r.state.1.Alike last.tree := by
      unfold publishByteCodes
      split
      · exact ⟨_, rfl, FileTree.Alike.refl _⟩
      · obtain ⟨last, ended, grown⟩ := Output.publishAll_of_open suffix config.compiler.outputDir
            [Header.byteCodes r.catalog.jobs]
            { second with tree := r.state.1, log := i.log ++ second.log ++ r.log } (by
          intro h member
          cases List.mem_singleton.mp member
          rw [join_byteCodes_path, untouched]
          exact registry.alike same)
        exact ⟨last, ended, grown⟩
    rw [untouched] at alike''
    simp only [run, started, headers, compiles, if_true, compile, made, outcome, ended, finish]
    exact ⟨⟨_, rfl⟩, same.trans alike''⟩

theorem run_of_open {σ : Type} (suffix : String) (config : BuildConfig)
    (runner : Runner (FileTree × σ)) (tree : FileTree) (state : σ) (i : Intake)
    (taken : (intake tree config.sourceDir).1 = .ok i)
    (still : ∀ call s, (runner call s).2.1 = s.1)
    (target : ∀ h ∈ i.catalog.targetHeaders i.types,
      FileTree.Open suffix tree (config.targetDir.join h.path))
    (declared : ∀ h ∈ i.catalog.declaredHeaders i.types,
      FileTree.Open suffix tree (config.declaredDir.join h.path))
    (output : ∃ place, tree.Leads config.compiler.outputDir place ∧
      tree.entry? place = some .directory)
    (registry : FileTree.Open suffix tree (registryPath config)) :
    ∃ summary, (run suffix config runner tree state).result = .ok summary :=
  (run_alike_of_open suffix config runner tree state i taken still target declared output
    registry).1

/-- A build that publishes everything at the root of a tree of files alone comes to its end, if
the runner only replies and the names of headers fit. -/
theorem run_rooted {σ : Type} (suffix : String) (config : BuildConfig)
    (reply : Call → Except Fault Reply) (tree : FileTree) (state : σ) (bare : tree.Keeps .empty)
    (target : config.targetDir = ⟨["", ""]⟩) (declared : config.declaredDir = ⟨["", ""]⟩)
    (output : config.compiler.outputDir = ⟨["", ""]⟩) (i : Intake)
    (taken : (intake tree config.sourceDir).1 = .ok i)
    (fits : ∀ name ∈ Header.byteCodesName :: Header.keysName :: i.catalog.ownNames,
      Output.Fits suffix name) :
    ∃ summary, (run suffix config (.ofReply reply) tree state).result = .ok summary := by
  apply run_of_open suffix config (.ofReply reply) tree state i taken fun _ _ => rfl
  · intro h member
    obtain ⟨name, known, file⟩ := i.catalog.targetHeaders_files i.types h member
    rw [target]
    exact (fits name (List.mem_cons_of_mem _ known)).opens bare file
  · intro h member
    obtain ⟨name, known, file⟩ := i.catalog.declaredHeaders_files i.types h member
    rw [declared]
    exact (fits name (List.mem_cons_of_mem _ (List.mem_cons_of_mem _ known))).opens bare file
  · rw [output]
    exact ⟨[], ⟨[], [""], FileTree.start_rooted tree (by decide) (by decide), rfl⟩, rfl⟩
  · rw [← join_byteCodes_path config [], output]
    exact (fits _ List.mem_cons_self).opens bare rfl

/-- So does a build that publishes into three directories at the root, if there is no directory in
them. -/
theorem run_below {σ : Type} (suffix : String) (config : BuildConfig)
    (runner : Runner (FileTree × σ)) (tree : FileTree) (state : σ) (target declared output : String)
    (directories : config.targetDir = ⟨["", target]⟩ ∧ config.declaredDir = ⟨["", declared]⟩ ∧
      config.compiler.outputDir = ⟨["", output]⟩)
    (there : ∀ d ∈ [target, declared, output], tree.entry? [d] = some .directory ∧ Path.IsName d ∧
      '\x00' ∉ d.toList ∧ d.utf8ByteSize ≤ FileTree.maxName)
    (free : ∀ d ∈ [target, declared, output], ∀ file, tree.entry? [d, file] ≠ some .directory)
    (i : Intake) (taken : (intake tree config.sourceDir).1 = .ok i)
    (still : ∀ call s, (runner call s).2.1 = s.1)
    (fits : ∀ name ∈ Header.byteCodesName :: Header.keysName :: i.catalog.ownNames,
      Output.Fits suffix name) :
    (∃ summary, (run suffix config runner tree state).result = .ok summary) ∧
      tree.Alike (run suffix config runner tree state).tree := by
  have opens (d : String) (member : d ∈ [target, declared, output]) {h : Header} {name : String}
      (file : h.file = Header.fileOf name)
      (known : name ∈ Header.byteCodesName :: Header.keysName :: i.catalog.ownNames) :
      FileTree.Open suffix tree ((Path.mk ["", d]).join h.path) := by
    have fit := fits name known
    obtain ⟨stands, plain, clean, short⟩ := there d member
    rw [Header.path_of_file file fit.unbroken]
    exact FileTree.open_below stands plain clean short (Header.fileOf_isName name)
      (fun file _ => free d member file) fit.clean fit.short
  obtain ⟨first, second, third⟩ := directories
  apply run_alike_of_open suffix config runner tree state i taken still
  · intro h member
    obtain ⟨name, known, file⟩ := i.catalog.targetHeaders_files i.types h member
    rw [first]
    exact opens target (by simp) file (List.mem_cons_of_mem _ known)
  · intro h member
    obtain ⟨name, known, file⟩ := i.catalog.declaredHeaders_files i.types h member
    rw [second]
    exact opens declared (by simp) file (List.mem_cons_of_mem _ (List.mem_cons_of_mem _ known))
  · obtain ⟨stands, plain, clean, short⟩ := there output (by simp)
    rw [third]
    exact ⟨[output], FileTree.leads_rooted tree plain clean short, stands⟩
  · rw [← join_byteCodes_path config [], third]
    exact opens output (by simp) rfl List.mem_cons_self

theorem ownNames_standard :
    (Preset.addAll Preset.standard .empty).1.ownNames = ["ForwardLighting", "IMGUI"] := by
  rw [Catalog.ownNames, Preset.standard_taken.structures, Preset.standard_taken.interfaces]
  rfl

theorem fits_standard : ∀ name ∈ Header.byteCodesName :: Header.keysName ::
    (Preset.addAll Preset.standard .empty).1.ownNames, Output.Fits ".tmp" name := by
  rw [ownNames_standard]
  simp only [List.forall_mem_cons]
  refine ⟨?_, ?_, ?_, ?_, by simp⟩ <;> exact ⟨by decide, by decide, by decide⟩

theorem registry_published_without_files :
    let root : Path := ⟨["", ""]⟩
    let config : BuildConfig :=
      ⟨root, root, root, { CompilerSettings.standard with outputDir := root }, true⟩
    let runner : Runner (FileTree × Unit) := .ofReply fun _ => .ok .silent
    ∃ summary, (run ".tmp" config runner .empty ()).result = .ok summary ∧
      (summary.Lists (registryPath config) ↔ summary.failures = []) := by
  intro root config runner
  have listed : FileTree.empty.descriptionFiles root = .ok [] := by
    have found : FileTree.empty.find root = .ok ([], .directory) := by
      rw [FileTree.find_iff]
      exact ⟨⟨[], [""], FileTree.start_rooted _ (by decide) (by decide), rfl⟩, rfl⟩
    have bare : FileTree.empty.entries = [] := rfl
    simp only [FileTree.descriptionFiles, FileTree.list, found]
    simp [bare, bind, Except.bind, pure, Except.pure]
  obtain ⟨i, taken, presets⟩ : ∃ i, (intake .empty root).1 = .ok i ∧
      i.catalog = (Preset.addAll Preset.standard .empty).1 := by
    refine ⟨.start (Preset.addAll Preset.standard .empty).1
      ((Preset.addAll Preset.standard .empty).2 ++ [foundLine root []]), ?_, rfl⟩
    simp only [intake, listed]
    rfl
  have own : i.catalog.ownNames = ["ForwardLighting", "IMGUI"] := by
    rw [Catalog.ownNames, presets, Preset.standard_taken.structures,
      Preset.standard_taken.interfaces]
    rfl
  obtain ⟨summary, success⟩ := run_rooted ".tmp" config (fun _ => .ok .silent) .empty ()
      (FileTree.Keeps.refl _) rfl rfl rfl i taken (by
    rw [own]
    simp only [List.forall_mem_cons]
    refine ⟨?_, ?_, ?_, ?_, by simp⟩ <;> exact ⟨by decide, by decide, by decide⟩)
  refine ⟨summary, success, ?_⟩
  obtain ⟨_, _, _, _, _, same, _⟩ := registry_published ".tmp" config runner .empty () summary rfl
      (by decide) success (by
    intro i' taken'
    cases taken.symm.trans taken'
    rw [own]
    decide)
  exact same

end Build
end ShaderVariants
