import ShaderVariants.Proofs.CompileRun

/-!
The course of a run of compile jobs. With a record of what the runner is asked and answers, a run
that finds no failure asks for one job after the other, each with its own arguments, until an answer
does not pass; that job fails, and those behind it are skipped without being asked for. A run that
finds a failure asks for nothing.
-/

namespace ShaderVariants

structure Exchange where
  call : Call
  answer : Answer

def Runner.recorded {σ : Type} (runner : Runner σ) : Runner (σ × List Exchange) :=
  fun call kept =>
    let (answer, state) := runner call kept.1
    (answer, state, kept.2 ++ [⟨call, answer⟩])

/-! ## Answers -/

def Answer.Passes (a : Answer) (s : CompilerSettings) : Prop :=
  ∃ reply, a.result = .ok reply ∧ reply.timedOut = false ∧ reply.exit = some 0 ∧
    (reply.captured = "" ∨ s.outputIsFailure = false)

/-- What a reply that fails its job is told to have done is never left empty. -/
theorem Reply.verdict_error_ne_empty {r : Reply} {s : CompilerSettings} {reason : String}
    (failed : r.verdict s = .error reason) : reason ≠ "" := by
  unfold verdict at failed
  dsimp only at failed
  split at failed
  case isTrue =>
    cases failed
    decide
  case isFalse =>
    split at failed
    case h_1 =>
      cases failed
      simp +decide
    case h_2 =>
      split at failed
      case isTrue =>
        cases failed
        simp +decide
      case isFalse =>
        split at failed
        case isTrue => cases failed
        case isFalse =>
          split at failed
          case isFalse => cases failed
          case isTrue =>
            cases failed
            split
            case isTrue => decide
            case isFalse printed => simpa using printed

theorem Reply.verdict_ok_iff (r : Reply) (s : CompilerSettings) :
    (∃ warning, r.verdict s = .ok warning) ↔ r.timedOut = false ∧ r.exit = some 0 ∧
      (r.captured = "" ∨ s.outputIsFailure = false) := by
  unfold verdict
  dsimp only
  cases late : r.timedOut with
  | true => simp
  | false =>
    cases ended : r.exit with
    | none => simp
    | some code =>
      by_cases clean : code = 0
      · by_cases quiet : r.captured = ""
        · simp [clean, quiet]
        · cases strict : s.outputIsFailure <;> simp [clean, quiet]
      · simp [clean]

theorem Answer.verdict_ok_iff (a : Answer) (s : CompilerSettings) :
    (∃ warning, a.verdict s = .ok warning) ↔ a.Passes s := by
  unfold verdict Passes
  cases a.result with
  | error fault => simp
  | ok reply => simpa using reply.verdict_ok_iff s

namespace Compile

/-! ## One job after the other -/

/-- How jobs go one after the other: what comes of them, what the runner is asked and answers, and
the failure if there is one. -/
inductive Course (s : CompilerSettings) :
    List Job → List JobOutcome → List Exchange → Option String → Prop where
  | done : Course s [] [] [] none
  | succeed {j : Job} {jobs : List Job} {answer : Answer} {outcomes : List JobOutcome}
      {exchanges : List Exchange} {failed : Option String} (passes : answer.Passes s)
      (later : Course s jobs outcomes exchanges failed) :
      Course s (j :: jobs) (⟨j.description, .succeeded⟩ :: outcomes)
        (⟨j.call s, answer⟩ :: exchanges) failed
  | fail {j : Job} {jobs : List Job} {answer : Answer} {reason : String}
      (refused : answer.verdict s = .error reason) :
      Course s (j :: jobs)
        (⟨j.description, .failed reason⟩ :: jobs.map fun j => ⟨j.description, .skipped⟩)
        [⟨j.call s, answer⟩] (some (failure j reason))

def addedFailure (catalog : Catalog) : Option String → Catalog
  | none => catalog
  | some message => catalog.addFailure message

section
variable {σ : Type} {s : CompilerSettings} {runner : Runner σ} {p : Progress σ} {j : Job}
  {answer : Answer} {state : σ}

theorem step_failed {reason : String} (clean : p.catalog.hasFailed = false)
    (answered : runner (j.call s) p.state = (answer, state))
    (verdict : answer.verdict s = .error reason) : step s runner p j = {
      catalog := p.catalog.addFailure (failure j reason)
      outcomes := p.outcomes ++ [⟨j.description, .failed reason⟩]
      log := p.log ++ [callLine j s] ++ answer.log ++ failureLines j reason
      state } := by
  rw [step, if_neg (by simp [clean])]
  simp only [answered, verdict]

theorem step_succeeded {warning : Option String} (clean : p.catalog.hasFailed = false)
    (answered : runner (j.call s) p.state = (answer, state))
    (verdict : answer.verdict s = .ok warning) : step s runner p j = {
      catalog := p.catalog
      outcomes := p.outcomes ++ [⟨j.description, .succeeded⟩]
      log := p.log ++ [callLine j s] ++ answer.log ++ successLines j warning
      state } := by
  rw [step, if_neg (by simp [clean])]
  simp only [answered, verdict]

end

section
variable {σ : Type} (s : CompilerSettings) (runner : Runner σ)

theorem foldl_course (jobs : List Job) (p : Progress (σ × List Exchange))
    (clean : p.catalog.hasFailed = false) :
    ∃ outcomes exchanges failed, Course s jobs outcomes exchanges failed ∧
      let q := jobs.foldl (step s runner.recorded) p
      q.outcomes = p.outcomes ++ outcomes ∧ q.state.2 = p.state.2 ++ exchanges ∧
        q.catalog = addedFailure p.catalog failed := by
  induction jobs generalizing p with
  | nil => exact ⟨[], [], none, .done, by simp, by simp, rfl⟩
  | cons j jobs ih =>
    obtain ⟨answer, state, asked⟩ : ∃ answer state, runner (j.call s) p.state.1 = (answer, state) :=
      ⟨_, _, rfl⟩
    have answered : runner.recorded (j.call s) p.state =
        (answer, state, p.state.2 ++ [⟨j.call s, answer⟩]) := by
      rw [Runner.recorded, asked]
    rw [List.foldl_cons]
    cases verdict : answer.verdict s with
    | error reason =>
      refine ⟨_, _, _, .fail verdict, ?_⟩
      rw [step_failed clean answered verdict, foldl_skipped _ _ _ _ rfl]
      exact ⟨by simp [Progress.skip], rfl, rfl⟩
    | ok warning =>
      have passes : answer.Passes s := (answer.verdict_ok_iff s).mp ⟨warning, verdict⟩
      have next := step_succeeded clean answered verdict
      obtain ⟨outcomes, exchanges, failed, later, listed, recorded, left⟩ :=
        ih (step s runner.recorded p j) (by rw [next]; exact clean)
      rw [next] at listed recorded left ⊢
      refine ⟨_, _, _, .succeed passes later, ?_, ?_, left⟩
      · rw [listed, List.append_assoc, List.singleton_append]
      · rw [recorded, List.append_assoc, List.singleton_append]

/-- A record changes nothing else about a run. -/
theorem run_recorded (catalog : Catalog) (jobs : List Job) (state : σ)
    (exchanges : List Exchange) :
    let r := run s runner.recorded catalog jobs (state, exchanges)
    run s runner catalog jobs state = ⟨r.report, r.catalog, r.log, r.state.1⟩ := by
  let forget (p : Progress (σ × List Exchange)) : Progress σ :=
    ⟨p.catalog, p.outcomes, p.log, p.state.1⟩
  have step_forget (p : Progress (σ × List Exchange)) (j : Job) :
      step s runner (forget p) j = forget (step s runner.recorded p j) := by
    unfold step
    dsimp only [forget, Runner.recorded]
    split
    · rfl
    · split <;> rfl
  have foldl_forget (p : Progress (σ × List Exchange)) :
      jobs.foldl (step s runner) (forget p) = forget (jobs.foldl (step s runner.recorded) p) := by
    induction jobs generalizing p with
    | nil => rfl
    | cons j jobs ih => rw [List.foldl_cons, step_forget, ih, List.foldl_cons]
  have whole := foldl_forget ⟨catalog, [], [startLine s jobs], (state, exchanges)⟩
  dsimp only [forget] at whole
  simp only [run, whole]

end

/-! ## Whole runs -/

/-- Whether of the jobs of a run the first `k` succeed and the next one fails, if there is one, the
runner being asked for these and no others, while all further ones are skipped. -/
structure FailsFast (s : CompilerSettings) (before : Catalog) (jobs : List Job)
    (outcomes : List JobOutcome) (exchanges : List Exchange) (after : Catalog) (k : Nat) : Prop where
  bound : k ≤ jobs.length
  succeeded : outcomes.take k = (jobs.take k).map fun j => ⟨j.description, .succeeded⟩
  skipped : outcomes.drop (k + 1) = (jobs.drop (k + 1)).map fun j => ⟨j.description, .skipped⟩
  asked : exchanges.map (·.call) = (jobs.take (k + 1)).map (·.call s)
  failed : ∀ j, jobs[k]? = some j → ∃ answer reason,
    exchanges[k]? = some ⟨j.call s, answer⟩ ∧
    outcomes[k]? = some ⟨j.description, .failed reason⟩ ∧
    (∀ reply, answer.result = .ok reply → reason ≠ "") ∧
    after = before.addFailure s!"{j.description}: {reason}"
  clean : k = jobs.length → after = before
  started : ∀ (i : Nat) (e : Exchange), exchanges[i]? = some e →
    (outcomes[i]?.map JobOutcome.status = some .succeeded ↔ e.answer.Passes s)

theorem FailsFast.succeed {s : CompilerSettings} {before after : Catalog} {jobs : List Job}
    {outcomes : List JobOutcome} {exchanges : List Exchange} {k : Nat} {j : Job} {answer : Answer}
    (passes : answer.Passes s) (later : FailsFast s before jobs outcomes exchanges after k) :
    FailsFast s before (j :: jobs) (⟨j.description, .succeeded⟩ :: outcomes)
      (⟨j.call s, answer⟩ :: exchanges) after (k + 1) where
  bound := Nat.succ_le_succ later.bound
  succeeded := by rw [List.take_succ_cons, List.take_succ_cons, List.map_cons, later.succeeded]
  skipped := by rw [List.drop_succ_cons, List.drop_succ_cons, later.skipped]
  asked := by rw [List.take_succ_cons, List.map_cons, List.map_cons, later.asked]
  failed := later.failed
  clean whole := later.clean (Nat.succ.inj whole)
  started i e found := by
    cases i with
    | zero =>
      cases found
      simpa using passes
    | succ i => exact later.started i e found

theorem Course.failsFast {s : CompilerSettings} {jobs : List Job} {outcomes : List JobOutcome}
    {exchanges : List Exchange} {failed : Option String}
    (course : Course s jobs outcomes exchanges failed) (before : Catalog) :
    ∃ k, FailsFast s before jobs outcomes exchanges (addedFailure before failed) k := by
  induction course with
  | done => exact ⟨0, Nat.le_refl 0, rfl, rfl, rfl, nofun, fun _ => rfl, nofun⟩
  | succeed passes later ih =>
    obtain ⟨k, fast⟩ := ih
    exact ⟨k + 1, fast.succeed passes⟩
  | fail refused =>
    rename_i j jobs answer reason
    refine ⟨0, Nat.zero_le _, rfl, rfl, rfl, ?_, nofun, ?_⟩
    · intro first found
      cases found
      refine ⟨answer, reason, rfl, rfl, ?_, rfl⟩
      intro reply answered
      rw [Answer.verdict, answered] at refused
      exact Reply.verdict_error_ne_empty refused
    · intro i e found
      cases i with
      | zero =>
        cases found
        rw [← Answer.verdict_ok_iff, refused]
        simp
      | succ i => cases found

/-- A run gives one outcome for each job, in their order. A run that finds a failure skips all jobs
and asks for none; any other run fails fast. -/
theorem run_fails_fast {σ : Type} (s : CompilerSettings) (runner : Runner σ) (catalog : Catalog)
    (jobs : List Job) (state : σ) (_sequential : s.parallelJobs ≤ 1) :
    let r := run s runner.recorded catalog jobs (state, [])
    run s runner catalog jobs state = ⟨r.report, r.catalog, r.log, r.state.1⟩ ∧
    r.report.outcomes.map (·.description) = jobs.map (·.description) ∧
    (catalog.hasFailed = true → (∀ o ∈ r.report.outcomes, o.status = .skipped) ∧
      r.state = (state, []) ∧ r.catalog = catalog) ∧
    (catalog.hasFailed = false → ∃ k,
      FailsFast s catalog jobs r.report.outcomes r.state.2 r.catalog k) := by
  refine ⟨run_recorded s runner catalog jobs state [],
    run_descriptions s runner.recorded catalog jobs (state, []), fun failed => ?_, fun clean => ?_⟩
  · rw [run_skipped s runner.recorded catalog jobs (state, []) failed]
    refine ⟨?_, rfl, rfl⟩
    rw [List.forall_mem_map]
    exact fun _ _ => rfl
  · obtain ⟨outcomes, exchanges, failed, course, listed, recorded, left⟩ :=
      foldl_course s runner jobs ⟨catalog, [], [startLine s jobs], (state, [])⟩ clean
    obtain ⟨k, fast⟩ := course.failsFast catalog
    rw [List.nil_append] at listed recorded
    refine ⟨k, ?_⟩
    dsimp only [run]
    rw [listed, recorded, left]
    exact fast

/-- A compiler that exits with 3 the second time it is run. -/
theorem run_fails_fast_at_second :
    let s := CompilerSettings.standard
    let runner : Runner Nat := fun _ count =>
      (⟨.ok (if count = 1 then ⟨some 3, "bad", false⟩ else .silent), []⟩, count + 1)
    let job (name : String) : Job :=
      ⟨name, 0, .pixel, .base, "Main", "a.hlsl", name, name ++ ".h", "g_" ++ name, []⟩
    let jobs := [job "A", job "B", job "C"]
    let r := run s runner.recorded .empty jobs (0, [])
    s.parallelJobs ≤ 1 ∧
    r.report.outcomes = [⟨"PS A", .succeeded⟩, ⟨"PS B", .failed "compiler exited with 3: bad"⟩,
      ⟨"PS C", .skipped⟩] ∧
    r.state.2.map (·.call) = [(job "A").call s, (job "B").call s] ∧
    r.catalog.failures = ["PS B: compiler exited with 3: bad"] ∧
    ∃ k, FailsFast s .empty jobs r.report.outcomes r.state.2 r.catalog k := by
  intro s runner job jobs r
  refine ⟨by decide, by decide +kernel, by decide +kernel, by decide +kernel, ?_⟩
  exact (run_fails_fast s runner .empty jobs 0 (by decide)).2.2.2 rfl

end Compile
end ShaderVariants
