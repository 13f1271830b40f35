import ShaderVariants.Compile.Run
import ShaderVariants.Script.Run
import ShaderVariants.Text.Utf8

/-!
A runner for trying builds out where there is no operating system: it knows the shell and the
programs that scripts call. Builds take any runner, and so does all that is proved of them; no other
part of the library depends on how scripts are run. What programs print on both streams is captured
in the order of time. A program that takes too long is stopped, and what commands in the background
print is only waited for a short while longer, or until the time is over.
-/

namespace ShaderVariants.Script

/-- How a program came to its end. -/
structure Ending where
  tree : FileTree
  /-- When that was; nothing if it was stopped. -/
  time : Option Nat
  /-- The exit code, unless a signal ended the program. -/
  exit : Option Int
  /-- In the order of time. -/
  events : List Event

/-- How deep the run of a program may go. -/
def runDepth : Nat := 200000

def programDirs : List String := ["/bin/", "/usr/bin/"]

/-- The name by which a program is known. -/
def programName (program : String) : String :=
  match programDirs.find? (program.startsWith ·) with
  | some dir => (program.drop dir.length).toString
  | none => program

/-- Why there is no program of a name. -/
def whyMissing (tree : FileTree) (program : String) : OsError :=
  if program.contains '/' then
    match tree.find (.ofText program) with
    | .ok _ => .permissionDenied
    | .error e => e
  else .notFound

def endingOf (sh : Shell) : Ending where
  tree := sh.tree
  time := if sh.flow == .endless then none else some sh.time
  exit := if sh.flow == .killed then none else some ((sh.status % 256 : Nat) : Int)
  events := sh.events.reverse.mergeSort fun a b => a.time ≤ b.time

/-- Runs a program, stopping it at a limit. -/
def launch (tree : FileTree) (limit : Option Nat) (program : String) (args : List String) :
    Except OsError Ending :=
  let name := programName program
  let sh := { Shell.start tree name args with limit }
  if (program :: args).any (·.contains '\x00') then
    .error (.other "nul byte found in provided data")
  else if isShellName name then
    .ok (endingOf (shellProgram runDepth { sh with arguments := [] } name args))
  else
    match Utility.run? tree [] name args with
    | some effect => .ok (endingOf (sh.suffer effect))
    | none => .error (whyMissing tree program)

/-- How long output is waited for behind the end of a program. -/
def grace : Nat := 100000

/-- Whether something printed is captured. -/
def isCaptured (limit : Option Nat) (ending : Ending) (e : Event) : Bool :=
  match limit, ending.time with
  | none, _ => true
  | some limit, some time => e.time ≤ max limit (time + grace)
  | some limit, none => e.time < if e.own then limit else limit + grace

def replyOf (limit : Option Nat) (ending : Ending) : Reply where
  exit := if ending.time.isSome then ending.exit else none
  captured :=
    let bytes := (ending.events.filter (isCaptured limit ending)).flatMap (·.bytes)
    Text.decode ⟨bytes.toArray⟩
  timedOut := ending.time.isNone

def timeoutLine (program : String) : LogLine :=
  ⟨.warn, .process, s!"{program} timed out, killing it"⟩

/-- Runs the programs that it is called for on a tree of files. -/
def runner : Runner (FileTree × σ) := fun call (tree, s) =>
  let limit := call.timeoutMs.map (· * 1000)
  match launch tree limit call.program call.arguments with
  | .error e => (⟨.error (.launch call.program e), []⟩, (tree, s))
  | .ok ending =>
      let log := if ending.time.isNone then [timeoutLine call.program] else []
      (⟨.ok (replyOf limit ending), log⟩, ({ ending.tree with working := tree.working }, s))

end ShaderVariants.Script
