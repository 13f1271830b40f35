import Mathlib.Logic.Relation
import ShaderVariants.Proofs.CompileRun
import ShaderVariants.Proofs.Ledger
import ShaderVariants.Proofs.Overflows

/-!
Work that is shared among several workers. Files are described and jobs are run one after the
other, but others may have their turns between any two acts of a worker that cannot be interrupted.
Where files are described, any such schedule comes down to an order of the files. Where jobs run,
nothing is changed in the catalog but its failures. So no schedule brings about a catalog of another
kind, and if there are no failures, then the schedule cannot be seen afterwards.
-/

namespace ShaderVariants

/-! ## Files -/

namespace Intake
open Catalog
open Relation (ReflTransGen)

/-- Where workers stand who describe files: the files that no one has taken up, and the refusals
that are not on record yet. -/
structure Bench where
  intake : Intake
  waiting : List SourceFile
  refusals : List (Path × Fault)

/-- One act of a worker. What a file asks for is offered in one act, and so is a failure recorded,
but others may act in between. -/
inductive Act : Bench → Bench → Prop
  | accept {i : Intake} {before after : List SourceFile} {file : SourceFile} {catalog : Catalog}
      {lines : List LogLine} {refusals : List (Path × Fault)}
      (accepted : i.addDescription file.description = ((.ok (), catalog), lines)) :
      Act ⟨i, before ++ file :: after, refusals⟩
        ⟨{ i with catalog, log := i.log ++ processLine file.path :: lines }, before ++ after,
          refusals⟩
  | refuse {i : Intake} {before after : List SourceFile} {file : SourceFile} {fault : Fault}
      {catalog : Catalog} {lines : List LogLine} {refusals : List (Path × Fault)}
      (refused : i.addDescription file.description = ((.error fault, catalog), lines)) :
      Act ⟨i, before ++ file :: after, refusals⟩
        ⟨{ i with catalog, log := i.log ++ processLine file.path :: lines }, before ++ after,
          (file.path, fault) :: refusals⟩
  | record {i : Intake} {waiting : List SourceFile} {before after : List (Path × Fault)}
      {path : Path} {fault : Fault} :
      Act ⟨i, waiting, before ++ (path, fault) :: after⟩
        ⟨i.failAt path fault, waiting, before ++ after⟩

/-- The files one after the other, in any order, are a schedule. -/
theorem order_scheduled {order files : List SourceFile} (reordered : order.Perm files)
    (i : Intake) : ReflTransGen Act ⟨i, files, []⟩ ⟨order.foldl process i, [], []⟩ := by
  induction order generalizing i files with
  | nil =>
    rw [← reordered.nil_eq]
    exact .refl
  | cons file order ih =>
    obtain ⟨before, after, rfl⟩ := List.append_of_mem (reordered.subset List.mem_cons_self)
    have rest := ih (List.Perm.cons_inv (reordered.trans List.perm_middle)) (i.process file)
    apply ReflTransGen.trans ?_ rest
    rcases described : i.addDescription file.description with ⟨⟨result, catalog⟩, lines⟩
    cases result with
    | ok _ =>
      rw [process, described]
      exact .single (.accept described)
    | error fault =>
      rw [process, described]
      have recorded (i : Intake) : Act ⟨i, before ++ after, [] ++ [(file.path, fault)]⟩
          ⟨i.failAt file.path fault, before ++ after, []⟩ := .record
      exact (ReflTransGen.single (.refuse described)).tail (recorded _)

/-- Whether two intakes are the same up to the order of their failures and what they have logged. -/
structure Alike (i other : Intake) : Prop where
  types : i.types = other.types
  overflowed : i.overflowed = other.overflowed
  catalog : i.catalog = { other.catalog with failures := i.catalog.failures }
  failures : i.catalog.failures.Perm other.catalog.failures

/-- How a bench goes with an order of the files that were taken up. Both come from the same intake
without failures, but some of the failures are not on record at the bench. -/
structure Bench.Tracks (b : Bench) (i : Intake) (order : List SourceFile) (clean : Intake)
    (early all : List String) : Prop where
  bench : Follows clean b.intake early
  ordered : Follows clean (order.foldl process i) all
  failures : all.Perm (early ++ b.refusals.map fun r => s!"{r.1.text}: {r.2.message}")
  overflowed : (order.foldl process i).overflowed = true ↔
    b.intake.overflowed = true ∨ ∃ r ∈ b.refusals, r.2 = .overflow

section
variable {clean actual : Intake} {messages : List String} (follows : Follows clean actual messages)
  {d : Description} {catalog : Catalog}
include follows

theorem Follows.addDescription_ok (accepted : (actual.addDescription d).1 = (.ok (), catalog)) :
    ∃ grown, (clean.addDescription d).1 = (.ok (), grown) ∧
      catalog = grown.addFailures messages := by
  have same := follows.addDescription d
  rw [accepted] at same
  have taken : (clean.addDescription d).1.1 = .ok () := (congrArg Prod.fst same).symm
  exact ⟨_, Prod.ext taken rfl, congrArg Prod.snd same⟩

theorem Follows.addDescription_error {fault : Fault}
    (refused : (actual.addDescription d).1 = (.error fault, catalog)) :
    (clean.addDescription d).1 = (.error fault, clean.catalog) ∧
      catalog = clean.catalog.addFailures messages := by
  have same := follows.addDescription d
  rw [refused] at same
  rcases addDescription_cases clean d with ⟨_, _, _, _, accepted⟩ | ⟨other, kept⟩
  · rw [accepted] at same
    cases same
  · rw [kept] at same ⊢
    cases same
    exact ⟨rfl, rfl⟩

end

/-- An act that takes up a file adds it to the order; any other leaves the order as it is. -/
theorem Act.tracks {b next : Bench} (act : Act b next) {i clean : Intake} {order : List SourceFile}
    {early all : List String} (tracks : b.Tracks i order clean early all) :
    ∃ taken clean' early' all', b.waiting.Perm (taken ++ next.waiting) ∧
      next.Tracks i (order ++ taken) clean' early' all' := by
  have turn (file : SourceFile) : (order ++ [file]).foldl process i =
      (order.foldl process i).process file := List.foldl_append
  -- The order refuses the file with the fault that the bench does.
  have overflows (file : SourceFile) :
      ((order ++ [file]).foldl process i).overflowed = true ↔
        (b.intake.overflowed = true ∨ ∃ r ∈ b.refusals, r.2 = .overflow) ∨
          (b.intake.addDescription file.description).1.1 = .error .overflow := by
    rw [turn, process_overflowed, tracks.overflowed, tracks.bench.addDescription,
      tracks.ordered.addDescription]
  cases act with
  | @accept here before after file catalog lines refusals accepted =>
    obtain ⟨grown, described, rfl⟩ :=
      tracks.bench.addDescription_ok (congrArg Prod.fst accepted)
    refine ⟨[file], { clean with catalog := grown }, early, all, List.perm_middle, ?_, ?_, ?_, ?_⟩
    · exact ⟨tracks.bench.types, rfl⟩
    · rw [turn]
      exact tracks.ordered.process_ok file described
    · exact tracks.failures
    · rw [overflows, accepted]
      exact or_iff_left nofun
  | @refuse here before after file fault catalog lines refusals refused =>
    obtain ⟨described, rfl⟩ := tracks.bench.addDescription_error (congrArg Prod.fst refused)
    refine ⟨[file], clean, early, all ++ [s!"{file.path.text}: {fault.message}"], List.perm_middle,
      ?_, ?_, ?_, ?_⟩
    · exact ⟨tracks.bench.types, rfl⟩
    · rw [turn]
      exact tracks.ordered.process_error file described
    · rw [List.map_cons]
      exact (tracks.failures.append_right _).trans
        ((List.append_assoc _ _ _).symm ▸ (List.perm_append_singleton _ _).append_left early)
    · rw [overflows, refused, or_assoc, Except.error.injEq, List.exists_mem_cons_iff,
        or_comm (a := fault = .overflow)]
  | @record here waiting before after path fault =>
    refine ⟨[], clean, early ++ [s!"{path.text}: {fault.message}"], all, List.Perm.refl _, ?_, ?_,
      ?_, ?_⟩
    · exact tracks.bench.failAt path fault
    · rw [List.append_nil]
      exact tracks.ordered
    · rw [List.append_assoc, List.singleton_append]
      exact tracks.failures.trans ((List.perm_middle.map _).append_left early)
    · have one : (∃ r ∈ before ++ (path, fault) :: after, r.2 = .overflow) ↔
          fault = .overflow ∨ ∃ r ∈ before ++ after, r.2 = .overflow := by
        simp only [List.perm_middle.mem_iff, List.exists_mem_cons_iff]
      rw [List.append_nil, tracks.overflowed, failAt_overflowed, or_assoc, one]

/-- Whatever the schedule, everything is in the end as if the files had been described one after
the other in some order. -/
theorem schedule_ordered {i later : Intake} {files : List SourceFile}
    (acts : ReflTransGen Act ⟨i, files, []⟩ ⟨later, [], []⟩) :
    ∃ order : List SourceFile, order.Perm files ∧ later.Alike (order.foldl process i) := by
  have tracks : ∀ b, ReflTransGen Act ⟨i, files, []⟩ b →
      ∃ order clean early all, files.Perm (order ++ b.waiting) ∧
        b.Tracks i order clean early all := by
    intro b acts
    induction acts with
    | refl =>
      exact ⟨[], i, [], [], List.Perm.refl _, .refl i, .refl i, List.Perm.refl _, by simp⟩
    | tail _ act ih =>
      obtain ⟨order, clean, early, all, left, tracks⟩ := ih
      obtain ⟨taken, clean', early', all', first, tracks'⟩ := act.tracks tracks
      refine ⟨order ++ taken, clean', early', all', ?_, tracks'⟩
      rw [List.append_assoc]
      exact left.trans (first.append_left order)
  obtain ⟨order, clean, early, all, whole, tracks⟩ := tracks _ acts
  have settled : all.Perm early := by simpa using tracks.failures
  refine ⟨order, by simpa using whole.symm, ?_, ?_, ?_, ?_⟩
  · exact tracks.bench.types.trans tracks.ordered.types.symm
  · rw [Bool.eq_iff_iff, tracks.overflowed]
    simp
  · rw [tracks.bench.catalog, tracks.ordered.catalog]
    have none : early.isEmpty = all.isEmpty := by
      rw [Bool.eq_iff_iff, List.isEmpty_iff_length_eq_zero, List.isEmpty_iff_length_eq_zero,
        settled.length_eq]
    simp only [addFailures, none]
  · rw [tracks.bench.catalog, tracks.ordered.catalog]
    exact settled.symm.append_left _

theorem schedule_reaches {b next : Bench} (acts : ReflTransGen Act b next) :
    b.intake.catalog.Reaches next.intake.catalog := by
  induction acts with
  | refl => exact .refl _
  | tail _ act ih =>
    apply ih.trans
    cases act with
    | @accept i _ _ file _ _ _ accepted =>
      have served := addDescription_reaches i file.description
      rwa [accepted] at served
    | @refuse i _ _ file _ _ _ _ refused =>
      have served := addDescription_reaches i file.description
      rwa [refused] at served
    | record => exact .failure _ _

/-- What a file asks for, if its interfaces and its shader can be made. -/
def asked (types : TypeScope) (file : SourceFile) : Option Request := do
  let interfaces ← (file.description.interfaces.mapM (Interface.ofDescription types)).toOption
  let shader ← (file.description.shader.mapM Shader.ofDescription).toOption
  some (.description interfaces shader)

theorem addDescription_asked (i : Intake) (file : SourceFile) :
    (∃ r, asked i.types file = some r ∧
        (i.addDescription file.description).1 = i.catalog.answer r) ∨
      asked i.types file = none ∧
        ∃ fault, (i.addDescription file.description).1 = (.error fault, i.catalog) := by
  unfold asked addDescription
  cases file.description.interfaces.mapM (Interface.ofDescription i.types) with
  | error fault => exact Or.inr ⟨rfl, fault, rfl⟩
  | ok interfaces =>
    cases file.description.shader with
    | none => exact Or.inl ⟨_, rfl, rfl⟩
    | some d =>
      simp only [offer, Option.mapM_some]
      cases Shader.ofDescription d with
      | error fault => exact Or.inr ⟨rfl, fault, rfl⟩
      | ok s =>
        refine Or.inl ⟨_, rfl, ?_⟩
        rw [answer]
        dsimp only
        generalize i.catalog.offerDescription interfaces (some s) = answered
        obtain ⟨result, next⟩ := answered
        cases result <;> rfl

theorem process_answered {i : Intake} {file : SourceFile} {r : Request}
    (answered : (i.addDescription file.description).1 = i.catalog.answer r)
    (taken : (i.catalog.answer r).1 = .ok ()) :
    (i.process file).catalog = (i.catalog.answer r).2 := by
  simp only [process, answered, taken]

/-- No file fails exactly if all can be made and all that they ask for is accepted. -/
theorem unbuilt_eq_nil_iff (files : List SourceFile) (i : Intake) :
    unbuilt i files = [] ↔ (∀ file ∈ files, (asked i.types file).isSome) ∧
      i.catalog.Accepts (files.filterMap (asked i.types)) := by
  induction files generalizing i with
  | nil => simp [unbuilt, Accepts]
  | cons file files ih =>
    have types : (i.process file).types = i.types := process_types [file] i
    have rest := ih (i.process file)
    rw [types] at rest
    rw [unbuilt, List.forall_mem_cons]
    rcases addDescription_asked i file with ⟨r, made, answered⟩ | ⟨none, fault, refused⟩
    · have result : (i.addDescription file.description).1.1 = (i.catalog.answer r).1 :=
        congrArg Prod.fst answered
      rw [List.filterMap_cons_some made, Accepts, made, result]
      cases taken : (i.catalog.answer r).1 with
      | error fault => simp
      | ok _ =>
        rw [rest, process_answered answered taken]
        simp
    · rw [refused, none]
      simp

theorem foldl_process_served (files : List SourceFile) (i : Intake)
    (clear : unbuilt i files = []) :
    (files.foldl process i).catalog = i.catalog.serve (files.filterMap (asked i.types)) := by
  induction files generalizing i with
  | nil => rfl
  | cons file files ih =>
    have types : (i.process file).types = i.types := process_types [file] i
    rw [unbuilt] at clear
    rcases addDescription_asked i file with ⟨r, made, answered⟩ | ⟨_, fault, refused⟩
    · rw [answered] at clear
      cases taken : (i.catalog.answer r).1 with
      | error fault => simp [taken] at clear
      | ok _ =>
        simp only [taken] at clear
        rw [List.filterMap_cons_some made, List.foldl_cons, ih _ clear, types,
          process_answered answered taken]
        rfl
    · simp [refused] at clear

/-- However the description of files is scheduled, types and overflows are those of the files one
after the other, and the catalog is one that offers lead to. If no file fails in one schedule, then
none fails in any, and the snapshots are the same. -/
theorem schedule_kept {i later : Intake} {files : List SourceFile}
    (reached : Catalog.empty.Reaches i.catalog)
    (acts : ReflTransGen Act ⟨i, files, []⟩ ⟨later, [], []⟩) :
    i.catalog.Reaches later.catalog ∧ later.types = i.types ∧
      later.overflowed = (files.foldl process i).overflowed ∧
      (later.catalog.failures.length = i.catalog.failures.length ↔ unbuilt i files = []) ∧
      (unbuilt i files = [] → later.catalog.Matches (files.foldl process i).catalog) := by
  obtain ⟨order, reordered, alike⟩ := schedule_ordered acts
  have asks := reordered.filterMap (asked i.types)
  have clear : unbuilt i order = [] ↔ unbuilt i files = [] := by
    rw [unbuilt_eq_nil_iff, unbuilt_eq_nil_iff]
    apply and_congr
    · simp only [reordered.mem_iff]
    · exact ⟨fun accepted => accepted.perm asks, fun accepted => accepted.perm asks.symm⟩
  refine ⟨schedule_reaches acts, ?_, ?_, ?_, ?_⟩
  · rw [alike.types, process_types]
  · rw [alike.overflowed, Bool.eq_iff_iff, foldl_process_overflowed, foldl_process_overflowed]
    simp only [reordered.mem_iff]
  · rw [alike.failures.length_eq, foldl_process_failures, ← clear, Nat.add_eq_left,
      List.length_eq_zero_iff]
  · intro accepted
    have whole := ((unbuilt_eq_nil_iff files i).mp accepted).2
    have sound : i.catalog.Sound := reached.sound empty_sound
    have built : ∀ s ∈ (i.catalog.serve (files.filterMap (asked i.types))).shaders, s.Built := by
      rw [← foldl_process_served files i accepted]
      exact (reached.trans (foldl_process_reaches files i)).built
    have same := whole.matches sound built asks.symm
    rw [← foldl_process_served files i accepted,
      ← foldl_process_served order i (clear.mpr accepted)] at same
    rw [alike.catalog]
    exact ⟨same.structures.symm, same.interfaces.symm, same.shaders.symm, same.jobs.symm,
      same.selectors.symm⟩

end Intake

/-! ## Jobs -/

namespace Compile
open Relation (ReflTransGen)

inductive Task where
  | waiting (j : Job)
  | running (j : Job)
  /-- The failure is recorded, but the flag is not raised yet. -/
  | failing (j : Job) (reason : String)
  | done (o : JobOutcome)

namespace Task

def description : Task → String
  | waiting j | running j | failing j _ => j.description
  | done o => o.description

def message : Task → Option String
  | failing j reason => some (failure j reason)
  | done ⟨description, .failed reason⟩ => some s!"{description}: {reason}"
  | _ => none

end Task

structure Shift where
  catalog : Catalog
  tasks : List Task

/-- One act of a worker. A job that is let through by the flag runs to its end, whatever happens to
the others meanwhile, and the runner may give it any answer. -/
inductive Act (s : CompilerSettings) : Shift → Shift → Prop
  | skip {c : Catalog} {before after : List Task} {j : Job} (failed : c.hasFailed = true) :
      Act s ⟨c, before ++ .waiting j :: after⟩
        ⟨c, before ++ .done ⟨j.description, .skipped⟩ :: after⟩
  | start {c : Catalog} {before after : List Task} {j : Job} (going : c.hasFailed = false) :
      Act s ⟨c, before ++ .waiting j :: after⟩ ⟨c, before ++ .running j :: after⟩
  | succeed {c : Catalog} {before after : List Task} {j : Job} {answer : Answer}
      {warning : Option String} (passed : answer.verdict s = .ok warning) :
      Act s ⟨c, before ++ .running j :: after⟩
        ⟨c, before ++ .done ⟨j.description, .succeeded⟩ :: after⟩
  | fail {c : Catalog} {before after : List Task} {j : Job} {answer : Answer} {reason : String}
      (refused : answer.verdict s = .error reason) :
      Act s ⟨c, before ++ .running j :: after⟩
        ⟨{ c with failures := c.failures ++ [failure j reason] },
          before ++ .failing j reason :: after⟩
  | raise {c : Catalog} {before after : List Task} {j : Job} {reason : String} :
      Act s ⟨c, before ++ .failing j reason :: after⟩
        ⟨{ c with hasFailed := true },
          before ++ .done ⟨j.description, .failed reason⟩ :: after⟩

structure Shift.Keeps (w : Shift) (catalog : Catalog) (jobs : List Job) : Prop where
  rest : w.catalog =
    { catalog with failures := w.catalog.failures, hasFailed := w.catalog.hasFailed }
  descriptions : w.tasks.map Task.description = jobs.map (·.description)
  failures : w.catalog.failures.Perm (catalog.failures ++ w.tasks.filterMap Task.message)
  raised : w.catalog.hasFailed = true ↔
    catalog.hasFailed = true ∨ ∃ d reason, .done ⟨d, .failed reason⟩ ∈ w.tasks
  skipped : ∀ d, .done ⟨d, .skipped⟩ ∈ w.tasks → w.catalog.hasFailed = true

theorem Shift.Keeps.replace {c catalog : Catalog} {before after : List Task} {t t' : Task}
    {jobs : List Job} (keeps : Shift.Keeps ⟨c, before ++ t :: after⟩ catalog jobs)
    (description : t'.description = t.description) (message : t'.message = t.message)
    (failed : ∀ d reason, t' = .done ⟨d, .failed reason⟩ ↔ t = .done ⟨d, .failed reason⟩)
    (skipped : ∀ d, t' = .done ⟨d, .skipped⟩ → c.hasFailed = true) :
    Shift.Keeps ⟨c, before ++ t' :: after⟩ catalog jobs where
  rest := keeps.rest
  descriptions := by
    rw [← keeps.descriptions]
    simp only [List.map_append, List.map_cons, description]
  failures := by
    have same := keeps.failures
    simp only [List.filterMap_append, List.filterMap_cons, ← message] at same ⊢
    exact same
  raised := by
    have same := keeps.raised
    simp only [List.mem_append, List.mem_cons, eq_comm (b := t), eq_comm (b := t'), failed]
      at same ⊢
    exact same
  skipped := by
    intro d member
    rw [List.mem_append, List.mem_cons] at member
    rcases member with there | here | there
    · exact keeps.skipped d (by simp [there])
    · exact skipped d here.symm
    · exact keeps.skipped d (by simp [there])

theorem Act.keeps {s : CompilerSettings} {w next : Shift} (act : Act s w next) {catalog : Catalog}
    {jobs : List Job} (keeps : w.Keeps catalog jobs) : next.Keeps catalog jobs := by
  cases act with
  | skip failed => exact keeps.replace rfl rfl (by simp) fun _ _ => failed
  | start going => exact keeps.replace rfl rfl (by simp) (by simp)
  | succeed passed => exact keeps.replace rfl rfl (by simp) (by simp)
  | @fail c before after j answer reason refused =>
    refine ⟨?_, ?_, ?_, ?_, ?_⟩
    · exact congrArg (fun d : Catalog => { d with failures := c.failures ++ [failure j reason] })
        keeps.rest
    · rw [← keeps.descriptions]
      simp [Task.description]
    · have failures := keeps.failures
      simp only [List.filterMap_append, List.filterMap_cons, Task.message] at failures ⊢
      have last := (failures.append_right [failure j reason]).trans (List.perm_append_singleton _ _)
      exact (last.trans List.perm_middle.symm).trans (List.perm_middle.symm.append_left _)
    · simpa using keeps.raised
    · simpa using keeps.skipped
  | @raise c before after j reason =>
    refine ⟨?_, ?_, ?_, ?_, ?_⟩
    · exact congrArg (fun d : Catalog => { d with hasFailed := true }) keeps.rest
    · rw [← keeps.descriptions]
      simp [Task.description]
    · have failures := keeps.failures
      simp only [List.filterMap_append, List.filterMap_cons, Task.message] at failures ⊢
      exact failures
    · exact iff_of_true rfl (Or.inr ⟨_, _, List.mem_append_right _ List.mem_cons_self⟩)
    · exact fun _ _ => rfl

theorem schedule_keeps {s : CompilerSettings} {catalog : Catalog} {jobs : List Job} {w : Shift}
    (acts : ReflTransGen (Act s) ⟨catalog, jobs.map .waiting⟩ w) : w.Keeps catalog jobs := by
  induction acts with
  | refl =>
    refine ⟨rfl, ?_, ?_, ?_, ?_⟩
    · simp [Task.description]
    · simp [List.filterMap_map, Function.comp_def, Task.message]
    · simp
    · simp
  | tail _ act ih => exact act.keeps ih

theorem message_done_eq_none (o : JobOutcome) :
    (Task.done o).message = none ↔ ∀ reason, o.status ≠ .failed reason := by
  obtain ⟨description, status⟩ := o
  cases status <;> simp [Task.message]

/-- Whatever the schedule and whatever the runner answers, nothing in the catalog changes but its
failures, of which there is one more for each job that fails. There are none in the end exactly if
there were none before and all jobs succeed. -/
theorem schedule_settled {s : CompilerSettings} {catalog later : Catalog} {jobs : List Job}
    {outcomes : List JobOutcome} (flag : catalog.hasFailed = !catalog.failures.isEmpty)
    (acts : ReflTransGen (Act s) ⟨catalog, jobs.map .waiting⟩ ⟨later, outcomes.map .done⟩) :
    later = { catalog with failures := later.failures, hasFailed := later.hasFailed } ∧
      outcomes.map (·.description) = jobs.map (·.description) ∧
      later.failures.Perm (catalog.failures ++ outcomes.filterMap fun o => (Task.done o).message) ∧
      later.hasFailed = !later.failures.isEmpty ∧
      (later.failures = [] ↔ catalog.failures = [] ∧ ∀ o ∈ outcomes, o.status = .succeeded) := by
  have keeps := schedule_keeps acts
  have descriptions := keeps.descriptions
  have failures := keeps.failures
  have raised := keeps.raised
  have skipped := keeps.skipped
  simp only [List.map_map, List.filterMap_map, Function.comp_def, List.mem_map, Task.done.injEq,
    exists_eq_right] at descriptions failures raised skipped
  have clear : later.failures = [] ↔
      catalog.failures = [] ∧ ∀ o ∈ outcomes, ∀ reason, o.status ≠ .failed reason := by
    rw [← List.length_eq_zero_iff, failures.length_eq, List.length_eq_zero_iff,
      List.append_eq_nil_iff, List.filterMap_eq_nil_iff]
    simp only [message_done_eq_none]
  have flagged : later.hasFailed = true ↔ later.failures ≠ [] := by
    rw [raised, flag, Ne, clear, not_and_or]
    apply or_congr
    · simp
    · push Not
      constructor
      · rintro ⟨d, reason, member⟩
        exact ⟨_, member, reason, rfl⟩
      · rintro ⟨⟨d, _⟩, member, reason, rfl⟩
        exact ⟨d, reason, member⟩
  refine ⟨keeps.rest, descriptions, failures, ?_, ?_⟩
  · rw [Bool.eq_iff_iff, flagged]
    simp
  · constructor
    · intro none
      refine ⟨(clear.mp none).1, fun o member => ?_⟩
      have unfailed := (clear.mp none).2 o member
      have started := skipped o.description
      obtain ⟨description, status⟩ := o
      cases status with
      | succeeded => rfl
      | failed reason => exact absurd rfl (unfailed reason)
      | skipped => exact absurd none (flagged.mp (started member))
    · rintro ⟨none, succeeded⟩
      refine clear.mpr ⟨none, fun o member reason failed => ?_⟩
      rw [succeeded o member] at failed
      cases failed

section
variable {σ : Type} (s : CompilerSettings) (runner : Runner σ)

theorem step_scheduled (p : Progress σ) (j : Job) (rest : List Task) :
    ReflTransGen (Act s) ⟨p.catalog, p.outcomes.map .done ++ .waiting j :: rest⟩
      ⟨(step s runner p j).catalog, (step s runner p j).outcomes.map .done ++ rest⟩ := by
  have ended (o : JobOutcome) :
      (p.outcomes ++ [o]).map .done ++ rest = p.outcomes.map .done ++ Task.done o :: rest := by
    simp
  unfold step
  split
  case isTrue failed =>
    rw [ended]
    exact .single (.skip failed)
  case isFalse going =>
    have started : Act s ⟨p.catalog, p.outcomes.map .done ++ .waiting j :: rest⟩
        ⟨p.catalog, p.outcomes.map .done ++ .running j :: rest⟩ :=
      .start (Bool.not_eq_true _ ▸ going)
    dsimp only
    split
    case h_1 reason refused =>
      rw [ended]
      exact ((ReflTransGen.single started).tail (.fail refused)).tail .raise
    case h_2 warning passed =>
      rw [ended]
      exact (ReflTransGen.single started).tail (.succeed passed)

theorem foldl_scheduled (jobs : List Job) (p : Progress σ) :
    ReflTransGen (Act s) ⟨p.catalog, p.outcomes.map .done ++ jobs.map .waiting⟩
      ⟨(jobs.foldl (step s runner) p).catalog,
        (jobs.foldl (step s runner) p).outcomes.map .done⟩ := by
  induction jobs generalizing p with
  | nil =>
    rw [List.map_nil, List.append_nil]
    exact .refl
  | cons j jobs ih => exact (step_scheduled s runner p j (jobs.map .waiting)).trans (ih _)

/-- The jobs one after the other are a schedule. -/
theorem run_scheduled (catalog : Catalog) (jobs : List Job) (state : σ) :
    ReflTransGen (Act s) ⟨catalog, jobs.map .waiting⟩
      ⟨(run s runner catalog jobs state).catalog,
        (run s runner catalog jobs state).report.outcomes.map .done⟩ :=
  foldl_scheduled s runner jobs ⟨catalog, [], [startLine s jobs], state⟩

end

end Compile
end ShaderVariants
