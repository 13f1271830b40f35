import ShaderVariants.Catalog
import ShaderVariants.Compile.Settings
import ShaderVariants.Text.Blank

/-!
Running compile jobs one after the other. Jobs run as long as the build has no failure, so after
the first job that fails all others are skipped. How a program is run is left to a runner with a
state of its own; what its reply means for the job is decided here.
-/

namespace ShaderVariants

structure Call where
  program : String
  arguments : List String
  timeoutMs : Option Nat
  deriving DecidableEq, Repr

/-- How a program ended and what it printed. -/
structure Reply where
  /-- The exit code, unless the program was killed. -/
  exit : Option Int
  captured : String
  timedOut : Bool
  deriving DecidableEq, Repr

def Reply.silent : Reply := ⟨some 0, "", false⟩

def Reply.isSuccess (r : Reply) : Bool := !r.timedOut && r.exit == some 0

/-- A reply or the reason why there is none, and what is logged on the way. -/
structure Answer where
  result : Except Fault Reply
  log : List LogLine

/-- Runs programs, changing a state. -/
abbrev Runner (σ : Type) := Call → σ → Answer × σ

/-- A runner that leaves the state alone. -/
def Runner.ofReply (reply : Call → Except Fault Reply) : Runner σ := fun call s =>
  (⟨reply call, []⟩, s)

inductive JobStatus where
  | succeeded
  | failed (reason : String)
  /-- Not started, since the build had failed before. -/
  | skipped
  deriving DecidableEq, Repr

structure JobOutcome where
  description : String
  status : JobStatus
  deriving DecidableEq, Repr

/-- The outcomes of jobs in their order. -/
structure Report where
  outcomes : List JobOutcome
  deriving DecidableEq, Repr

namespace Report

def succeeded (r : Report) : Nat := r.outcomes.countP (·.status == .succeeded)

def failed (r : Report) : List JobOutcome :=
  r.outcomes.filter fun o =>
    match o.status with
    | .failed _ => true
    | _ => false

def skipped (r : Report) : Nat := r.outcomes.countP (·.status == .skipped)

end Report

namespace Job

def call (j : Job) (s : CompilerSettings) : Call := ⟨s.compiler, j.arguments s, s.timeoutMs⟩

end Job

namespace Reply

/-- Why a reply fails its job, or what it warns of. -/
def verdict (r : Reply) (s : CompilerSettings) : Except String (Option String) :=
  let printed := Text.trimmed r.captured
  if r.timedOut then .error "compiler timed out"
  else
    match r.exit with
    | none => .error s!"compiler was terminated: {printed}"
    | some code =>
        if code ≠ 0 then .error s!"compiler exited with {code}: {printed}"
        else if r.captured.isEmpty then .ok none
        else if s.outputIsFailure then
          .error (if printed.isEmpty then "compiler printed only whitespace" else printed)
        else .ok (some printed)

end Reply

/-- What an answer means for its job. -/
def Answer.verdict (a : Answer) (s : CompilerSettings) : Except String (Option String) :=
  match a.result with
  | .error fault => .error fault.message
  | .ok reply => reply.verdict s

namespace Compile

/-- Where a run of jobs stands. -/
structure Progress (σ : Type) where
  catalog : Catalog
  outcomes : List JobOutcome
  log : List LogLine
  state : σ

def callLine (j : Job) (s : CompilerSettings) : LogLine :=
  ⟨.debug, .compile, String.intercalate " " (s.compiler :: j.arguments s)⟩

def failure (j : Job) (reason : String) : String := s!"{j.description}: {reason}"

def failureLines (j : Job) (reason : String) : List LogLine :=
  [⟨.error, .compile, s!"failed to compile {j.description}"⟩,
    Catalog.failureLine (failure j reason)]

def successLines (j : Job) (warning : Option String) : List LogLine :=
  (warning.map fun w => ⟨.warn, .compile, s!"{j.description}: {w}"⟩).toList ++
    [⟨.info, .compile, s!"compiled {j.description}"⟩]

/-- Runs one job, unless the build has failed. -/
def step (s : CompilerSettings) (runner : Runner σ) (p : Progress σ) (j : Job) : Progress σ :=
  if p.catalog.hasFailed then
    { p with
      outcomes := p.outcomes ++ [⟨j.description, .skipped⟩]
      log := p.log ++ [⟨.debug, .compile, s!"skipping {j.description}"⟩] }
  else
    let (answer, state) := runner (j.call s) p.state
    let log := p.log ++ [callLine j s] ++ answer.log
    match answer.verdict s with
    | .error reason => {
        catalog := p.catalog.addFailure (failure j reason)
        outcomes := p.outcomes ++ [⟨j.description, .failed reason⟩]
        log := log ++ failureLines j reason
        state }
    | .ok warning => {
        catalog := p.catalog
        outcomes := p.outcomes ++ [⟨j.description, .succeeded⟩]
        log := log ++ successLines j warning
        state }

def startLine (s : CompilerSettings) (jobs : List Job) : LogLine :=
  ⟨.info, .compile, s!"compiling {jobs.length} permutations with {s.workers} worker(s)"⟩

def endLine (r : Report) : LogLine :=
  ⟨.info, .compile,
    s!"{r.succeeded} succeeded, {r.failed.length} failed, {r.skipped} skipped"⟩

/-- What a run of jobs gives. -/
structure Result (σ : Type) where
  report : Report
  catalog : Catalog
  log : List LogLine
  state : σ

def run (s : CompilerSettings) (runner : Runner σ) (catalog : Catalog) (jobs : List Job)
    (state : σ) : Result σ :=
  let p := jobs.foldl (step s runner) ⟨catalog, [], [startLine s jobs], state⟩
  let report : Report := ⟨p.outcomes⟩
  ⟨report, p.catalog, p.log ++ [endLine report], p.state⟩

end Compile
end ShaderVariants
