import ShaderVariants.Proofs.Builds
import ShaderVariants.Proofs.Ledger
import ShaderVariants.Proofs.Sources

/-!
What becomes of the description files of a build. Every file has one fate, which is true of it; the
presets and the fates account for all that the build takes in, and for its failures but one: where
no file fails, a job may.
-/

namespace ShaderVariants

theorem FileTree.descriptionFiles_single (bytes : ByteArray) :
    descriptionFiles ⟨[(["a.json"], .file bytes)], []⟩ ⟨["", ""]⟩ = .ok [⟨["", "a.json"]⟩] := by
  let tree : FileTree := ⟨[(["a.json"], .file bytes)], []⟩
  have found : tree.find ⟨["", ""]⟩ = .ok ([], .directory) := by
    rw [find_iff]
    exact ⟨⟨[], [""], start_rooted _ (by decide) (by decide), rfl⟩, rfl⟩
  have names : tree.list ⟨["", ""]⟩ = .ok ["a.json"] := by
    simp only [list, found]
    rfl
  have regular : tree.isFile ⟨["", "a.json"]⟩ = true := by
    have leads := @leads_rooted tree "a.json" ⟨rfl, by decide⟩ (by decide) (by decide)
    have there := (find_iff tree _ _ (.file bytes)).mpr ⟨leads, rfl⟩
    simp only [isFile, there]
  have joined : Path.join ⟨["", ""]⟩ (.single "a.json") = ⟨["", "a.json"]⟩ := by decide
  have ending : Path.extension? ⟨["", "a.json"]⟩ = some "json" := by decide
  show tree.descriptionFiles _ = _
  simp [descriptionFiles, names, joined, regular, ending, descriptionEnding, bind, Except.bind,
    pure, Except.pure]

namespace Build

def presets : Intake := .start (Preset.addAll Preset.standard .empty).1 []

def fates (tree : FileTree) (dir : Path) : List (Path × Intake.Fate) :=
  let (catalog, log) := Preset.addAll Preset.standard .empty
  match tree.descriptionFiles dir with
  | .error _ => []
  | .ok paths => Intake.fates tree (.start catalog (log ++ [foundLine dir paths])) paths

/-- Whether fates are those of all description files in a directory, each of them once, in the
order of their paths and true of them. -/
structure Covers (tree : FileTree) (dir : Path) (types : TypeScope)
    (fates : List (Path × Intake.Fate)) : Prop where
  all : ∀ path, path ∈ fates.map (·.1) ↔ tree.Describes dir path
  once : (fates.map (·.1)).Nodup
  order : (fates.map (·.1)).Pairwise (Path.le · · = true)
  true_of : ∀ f ∈ fates, f.2.Holds tree types f.1

theorem intake_accounts (tree : FileTree) (dir : Path) (i : Intake)
    (success : (intake tree dir).1 = .ok i) :
    Covers tree dir i.types (fates tree dir) ∧ Intake.Accounts presets i (fates tree dir) := by
  obtain ⟨paths, listed, rfl, _⟩ := intake_eq_ok.mp success
  simp only [fates, listed]
  obtain ⟨all, once, order⟩ := FileTree.descriptionFiles_eq_ok listed
  refine ⟨⟨?_, ?_, ?_, Intake.fates_hold tree _ paths⟩, ?_⟩
  · rwa [Intake.fates_paths]
  · rwa [Intake.fates_paths]
  · rwa [Intake.fates_paths]
  · exact { Intake.takeFiles_accounts tree _ paths with }

/-- A build ends with the failures of its intake, or if there are none, with at most that of one
job. -/
theorem run_failures {σ : Type} (suffix : String) (config : BuildConfig)
    (runner : Runner (FileTree × σ)) (tree : FileTree) (state : σ) (summary : Summary)
    (success : (run suffix config runner tree state).result = .ok summary) :
    ∃ i, (intake tree config.sourceDir).1 = .ok i ∧
      (summary.failures = i.catalog.failures ∨ i.catalog.failures = [] ∧
        ∃ report, summary.report = some report ∧ ∃ j ∈ i.catalog.jobs, ∃ reason,
          summary.failures = [Compile.failure j reason] ∧
          ⟨j.description, .failed reason⟩ ∈ report.outcomes) := by
  cases compiles : config.compile with
  | false =>
    obtain ⟨i, o, lines, taken, _, whole⟩ :=
      run_idle suffix config runner tree state summary compiles success
    rw [whole] at success
    cases success
    exact ⟨i, taken, Or.inl rfl⟩
  | true =>
    obtain ⟨i, r, last, course⟩ :=
      run_course suffix config runner tree state summary compiles success
    rw [course.whole] at success
    cases success
    refine ⟨i, course.taken, ?_⟩
    obtain ⟨made, rfl⟩ := course.compiled
    refine (Compile.run_failures _ _ _ _ _ course.sound.flag).imp id ?_
    rintro ⟨clean, j, member, reason, recorded, listed⟩
    exact ⟨clean, _, rfl, j, member, reason, recorded, listed⟩

open Intake (messages) in
/-- Every description file has one fate, which is true of it. The presets and the fates account for
all that a build takes in. The failures are those of the files, step by step, and where there are
none, at most that of one job. -/
theorem files_accounted {σ : Type} (suffix : String) (config : BuildConfig)
    (runner : Runner (FileTree × σ)) (tree : FileTree) (state : σ) (summary : Summary)
    (_sequential : config.compiler.parallelJobs ≤ 1)
    (success : (run suffix config runner tree state).result = .ok summary) :
    let fates := fates tree config.sourceDir
    let ofFiles :=
      messages .reading fates ++ messages .registering fates ++ messages .describing fates
    ∃ i late, (intake tree config.sourceDir).1 = .ok i ∧
      Covers tree config.sourceDir i.types fates ∧
      Intake.Accounts presets i fates ∧ presets.catalog.failures = [] ∧
      summary.failures = ofFiles ++ late ∧
      (late = [] ∨ ofFiles = [] ∧ ∃ report, summary.report = some report ∧
        ∃ j ∈ i.catalog.jobs, ∃ reason, late = [Compile.failure j reason] ∧
          ⟨j.description, .failed reason⟩ ∈ report.outcomes) := by
  intro fates ofFiles
  obtain ⟨i, taken, failures⟩ := run_failures suffix config runner tree state summary success
  obtain ⟨covers, accounts⟩ := intake_accounts tree config.sourceDir i taken
  have silent : presets.catalog.failures = [] := Preset.standard_taken.failures
  have given : i.catalog.failures = ofFiles := by
    rw [accounts.failures, silent, List.nil_append]
  rw [given] at failures
  rcases failures with same | ⟨clean, report, reported, j, member, reason, recorded, listed⟩
  · exact ⟨i, [], taken, covers, accounts, silent, by rw [same, List.append_nil], Or.inl rfl⟩
  · refine ⟨i, [Compile.failure j reason], taken, covers, accounts, silent, ?_,
      Or.inr ⟨clean, report, reported, j, member, reason, rfl, listed⟩⟩
    rw [recorded, clean, List.nil_append]

theorem files_accounted_one :
    let root : Path := ⟨["", ""]⟩
    let config : BuildConfig :=
      ⟨root, root, root, { CompilerSettings.standard with outputDir := root }, true⟩
    let tree : FileTree := ⟨[(["a.json"], .file "[".toUTF8)], []⟩
    let runner : Runner (FileTree × Unit) := .ofReply fun _ => .ok .silent
    ∃ summary fault, (run ".tmp" config runner tree ()).result = .ok summary ∧
      fates tree root = [(⟨["", "a.json"]⟩, .unread fault)] ∧
      summary.failures = [fault.message] := by
  intro root config tree runner
  have listed : tree.descriptionFiles root = .ok [⟨["", "a.json"]⟩] :=
    FileTree.descriptionFiles_single _
  obtain ⟨fault, unread⟩ : ∃ fault, Description.ofFile tree ⟨["", "a.json"]⟩ = .error fault := by
    have there : tree.entry? ["a.json"] = some (.file "[".toUTF8) := rfl
    rw [Description.ofFile_rooted ⟨rfl, by decide⟩ (by decide) (by decide) there]
    exact ⟨_, rfl⟩
  have one : fates tree root = [(⟨["", "a.json"]⟩, .unread fault)] := by
    simp only [fates, listed, Intake.fates, Intake.fatesFrom, unread]
  obtain ⟨i, taken⟩ : ∃ i, (intake tree root).1 = .ok i := by
    refine ⟨_, intake_eq_ok.mpr ⟨_, listed, rfl, ?_⟩⟩
    simp only [Intake.takeFiles, Intake.read, unread]
    rfl
  have accounts := (intake_accounts tree root i taken).2
  have own : i.catalog.ownNames = presets.catalog.ownNames := by
    rw [Catalog.ownNames, accounts.structures, accounts.interfaces, one]
    simp only [List.flatMap_cons, List.flatMap_nil, Intake.Fate.structures, Intake.Fate.interfaces,
      List.append_nil, Catalog.ownNames]
  have bare : tree.Keeps .empty := by
    refine ⟨fun place found => ?_, rfl⟩
    by_cases top : place = []
    · rw [top, FileTree.entry?_root]
    · rw [FileTree.entry?_of_ne_nil _ top, List.lookup_cons] at found
      split at found <;> cases found
  obtain ⟨summary, success⟩ := run_rooted ".tmp" config (fun _ => .ok .silent) tree () bare rfl rfl
      rfl i taken (own ▸ fits_standard)
  obtain ⟨_, late, _, _, _, _, failures, last⟩ :=
    files_accounted ".tmp" config runner tree () summary (by decide) success
  refine ⟨summary, fault, success, one, ?_⟩
  rw [one] at failures last
  rcases last with none | ⟨clean, _⟩
  · rw [failures, none]
    rfl
  · cases clean

end Build
end ShaderVariants
