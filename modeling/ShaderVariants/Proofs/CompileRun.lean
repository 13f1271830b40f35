import ShaderVariants.Compile.Run
import ShaderVariants.Proofs.Requests

/-!
What a run of compile jobs does to a catalog. Whatever the runner replies, the run only adds
failures, and after any number of jobs there are none exactly if there were none before and all
jobs so far have succeeded. Once there is a failure the runner is left alone.
-/

namespace ShaderVariants.Compile

variable {σ : Type} (s : CompilerSettings) (runner : Runner σ)

/-- How the catalog and the outcomes of a run go together. Every step keeps this, whether the
catalog was clean at the start or not. -/
structure Agrees (before : Catalog) (p : Progress σ) : Prop where
  pending : p.catalog.pending = before.pending
  flag : p.catalog.hasFailed = !p.catalog.failures.isEmpty
  outcomes : p.catalog.failures = [] ↔
    before.failures = [] ∧ ∀ o ∈ p.outcomes, o.status = .succeeded

theorem step_agrees (before : Catalog) (p : Progress σ) (j : Job) (agrees : Agrees before p) :
    Agrees before (step s runner p j) := by
  have clear : p.catalog.hasFailed = false ↔ p.catalog.failures = [] := by
    rw [agrees.flag, Bool.not_eq_false', List.isEmpty_iff]
  unfold step
  split
  case isTrue failed =>
    refine { agrees with outcomes := ?_ }
    have broken : p.catalog.failures ≠ [] := by
      intro none
      rw [clear.mpr none] at failed
      cases failed
    simp [broken]
  case isFalse going =>
    have none := clear.mp (by simpa using going)
    have good := agrees.outcomes.mp none
    dsimp only
    split
    · refine ⟨agrees.pending, by simp [Catalog.addFailure], ?_⟩
      simp [Catalog.addFailure]
    · refine ⟨agrees.pending, agrees.flag, ?_⟩
      simp only [none, true_iff]
      refine ⟨good.1, ?_⟩
      intro o member
      rcases List.mem_append.mp member with earlier | last
      · exact good.2 o earlier
      · cases List.mem_singleton.mp last
        rfl

theorem foldl_agrees (before : Catalog) (jobs : List Job) (p : Progress σ)
    (agrees : Agrees before p) : Agrees before (jobs.foldl (step s runner) p) := by
  induction jobs generalizing p with
  | nil => exact agrees
  | cons j jobs ih => exact ih _ (step_agrees s runner before p j agrees)

/-- The failures of a run: those from before it, or where there were none, that of one job. -/
def Records (before : Catalog) (jobs : List Job) (p : Progress σ) : Prop :=
  p.catalog.failures = before.failures ∨ before.failures = [] ∧
    ∃ j ∈ jobs, ∃ reason, p.catalog.failures = [failure j reason] ∧
      ⟨j.description, .failed reason⟩ ∈ p.outcomes

theorem step_records {before : Catalog} {jobs : List Job} {p : Progress σ} {j : Job}
    (member : j ∈ jobs) (agrees : Agrees before p) (records : Records before jobs p) :
    Records before jobs (step s runner p j) := by
  unfold step
  split
  case isTrue failed =>
    refine records.imp id ?_
    rintro ⟨clean, other, inside, reason, recorded, listed⟩
    exact ⟨clean, other, inside, reason, recorded, List.mem_append_left _ listed⟩
  case isFalse going =>
    have none : p.catalog.failures = [] := by
      rw [agrees.flag] at going
      simpa using going
    have clean := (agrees.outcomes.mp none).1
    dsimp only
    split
    case h_1 reason _ =>
      refine Or.inr ⟨clean, j, member, reason, ?_, by simp⟩
      simp [Catalog.addFailure, none]
    case h_2 => exact Or.inl (none.trans clean.symm)

theorem foldl_records {before : Catalog} {all : List Job} (jobs : List Job) (p : Progress σ)
    (members : ∀ j ∈ jobs, j ∈ all) (agrees : Agrees before p) (records : Records before all p) :
    Records before all (jobs.foldl (step s runner) p) := by
  induction jobs generalizing p with
  | nil => exact records
  | cons j jobs ih =>
    rw [List.forall_mem_cons] at members
    exact ih _ members.2 (step_agrees s runner before p j agrees)
      (step_records s runner members.1 agrees records)

theorem step_descriptions (p : Progress σ) (j : Job) :
    (step s runner p j).outcomes.map (·.description) =
      p.outcomes.map (·.description) ++ [j.description] := by
  unfold step
  split
  · simp
  · dsimp only
    split <;> simp

theorem foldl_descriptions (jobs : List Job) (p : Progress σ) :
    (jobs.foldl (step s runner) p).outcomes.map (·.description) =
      p.outcomes.map (·.description) ++ jobs.map (·.description) := by
  induction jobs generalizing p with
  | nil => simp
  | cons j jobs ih => rw [List.foldl_cons, ih, step_descriptions, List.map_cons, List.append_assoc,
      List.singleton_append]

def Progress.skip (p : Progress σ) (jobs : List Job) : Progress σ :=
  { p with
    outcomes := p.outcomes ++ jobs.map fun j => ⟨j.description, .skipped⟩
    log := p.log ++ jobs.map fun j => ⟨.debug, .compile, s!"skipping {j.description}"⟩ }

theorem Progress.skip_cons (p : Progress σ) (j : Job) (jobs : List Job) :
    (p.skip [j]).skip jobs = p.skip (j :: jobs) := by
  simp [skip]

theorem foldl_skipped (jobs : List Job) (p : Progress σ) (failed : p.catalog.hasFailed = true) :
    jobs.foldl (step s runner) p = p.skip jobs := by
  induction jobs generalizing p with
  | nil => simp [Progress.skip]
  | cons j jobs ih =>
    have skips : step s runner p j = p.skip [j] := if_pos failed
    rw [List.foldl_cons, skips, ih (p.skip [j]) failed, Progress.skip_cons]

/-! ## Whole runs -/

variable (catalog : Catalog) (jobs : List Job) (state : σ)

theorem run_agrees (flag : catalog.hasFailed = !catalog.failures.isEmpty) :
    Agrees catalog (jobs.foldl (step s runner) ⟨catalog, [], [startLine s jobs], state⟩) :=
  foldl_agrees s runner catalog jobs _ ⟨rfl, flag, by simp⟩

theorem run_flag (flag : catalog.hasFailed = !catalog.failures.isEmpty) :
    (run s runner catalog jobs state).catalog.hasFailed =
      !(run s runner catalog jobs state).catalog.failures.isEmpty :=
  (run_agrees s runner catalog jobs state flag).flag

/-- A run adds one failure at most, and none to others. -/
theorem run_failures (flag : catalog.hasFailed = !catalog.failures.isEmpty) :
    let r := run s runner catalog jobs state
    r.catalog.failures = catalog.failures ∨ catalog.failures = [] ∧
      ∃ j ∈ jobs, ∃ reason, r.catalog.failures = [failure j reason] ∧
        ⟨j.description, .failed reason⟩ ∈ r.report.outcomes :=
  foldl_records s runner jobs _ (fun _ member => member) ⟨rfl, flag, by simp⟩ (Or.inl rfl)

theorem run_jobs (flag : catalog.hasFailed = !catalog.failures.isEmpty) :
    (run s runner catalog jobs state).catalog.jobs = catalog.jobs :=
  congrArg (List.mergeSort · Catalog.jobLe) (run_agrees s runner catalog jobs state flag).pending

theorem run_descriptions :
    (run s runner catalog jobs state).report.outcomes.map (·.description) =
      jobs.map (·.description) :=
  foldl_descriptions s runner jobs _

theorem run_skipped (failed : catalog.hasFailed = true) :
    run s runner catalog jobs state =
      let report : Report := ⟨jobs.map fun j => ⟨j.description, .skipped⟩⟩
      ⟨report, catalog, startLine s jobs ::
        jobs.map (fun j => ⟨.debug, .compile, s!"skipping {j.description}"⟩) ++ [endLine report],
        state⟩ := by
  have whole := foldl_skipped s runner jobs ⟨catalog, [], [startLine s jobs], state⟩ failed
  simp only [run, whole]
  rfl

theorem run_clean_iff (flag : catalog.hasFailed = !catalog.failures.isEmpty) (nonempty : jobs ≠ []) :
    (run s runner catalog jobs state).catalog.failures = [] ↔
      ∀ o ∈ (run s runner catalog jobs state).report.outcomes, o.status = .succeeded := by
  refine (run_agrees s runner catalog jobs state flag).outcomes.trans ?_
  constructor
  · intro good
    exact good.2
  · intro good
    refine ⟨?_, good⟩
    by_contra broken
    have failed : catalog.hasFailed = true := by
      rw [flag, Bool.not_eq_true', List.isEmpty_eq_false_iff]
      exact broken
    obtain ⟨j, member⟩ := List.exists_mem_of_ne_nil jobs nonempty
    rw [run_skipped s runner catalog jobs state failed] at good
    cases good ⟨j.description, .skipped⟩ (List.mem_map_of_mem member)

theorem run_still {τ : Type} (view : σ → τ)
    (still : ∀ call state, view (runner call state).2 = view state) :
    view (run s runner catalog jobs state).state = view state := by
  have step_still (p : Progress σ) (j : Job) : view (step s runner p j).state = view p.state := by
    unfold step
    split
    · rfl
    · dsimp only
      split <;> exact still _ _
  have foldl_still (p : Progress σ) :
      view (jobs.foldl (step s runner) p).state = view p.state := by
    induction jobs generalizing p with
    | nil => rfl
    | cons j jobs ih => rw [List.foldl_cons, ih, step_still]
  exact foldl_still _

/-- Two runners that give the same replies bring the same catalog and the same outcomes, whatever
their states are and whatever they log. -/
theorem run_of_replies {τ : Type} (other : Runner τ) (state' : τ)
    (same : ∀ call a b, (runner call a).1.result = (other call b).1.result) :
    (run s runner catalog jobs state).catalog = (run s other catalog jobs state').catalog ∧
      (run s runner catalog jobs state).report = (run s other catalog jobs state').report := by
  have step_same (p : Progress σ) (q : Progress τ) (j : Job) (catalogs : p.catalog = q.catalog)
      (outcomes : p.outcomes = q.outcomes) :
      (step s runner p j).catalog = (step s other q j).catalog ∧
        (step s runner p j).outcomes = (step s other q j).outcomes := by
    have verdicts : (runner (j.call s) p.state).1.verdict s =
        (other (j.call s) q.state).1.verdict s := by
      rw [Answer.verdict, Answer.verdict, same (j.call s) p.state q.state]
    unfold step
    dsimp only
    rw [catalogs, outcomes, verdicts]
    split
    · exact ⟨rfl, rfl⟩
    · split <;> exact ⟨rfl, rfl⟩
  have foldl_same (p : Progress σ) (q : Progress τ) (catalogs : p.catalog = q.catalog)
      (outcomes : p.outcomes = q.outcomes) :
      (jobs.foldl (step s runner) p).catalog = (jobs.foldl (step s other) q).catalog ∧
        (jobs.foldl (step s runner) p).outcomes = (jobs.foldl (step s other) q).outcomes := by
    induction jobs generalizing p q with
    | nil => exact ⟨catalogs, outcomes⟩
    | cons j jobs ih =>
      obtain ⟨catalogs', outcomes'⟩ := step_same p q j catalogs outcomes
      exact ih _ _ catalogs' outcomes'
  obtain ⟨catalogs, outcomes⟩ := foldl_same ⟨catalog, [], [startLine s jobs], state⟩
    ⟨catalog, [], [startLine s jobs], state'⟩ rfl rfl
  exact ⟨catalogs, congrArg Report.mk outcomes⟩

end ShaderVariants.Compile
