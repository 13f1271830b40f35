import ShaderVariants.CommandLine.Config
import ShaderVariants.Log.Filter

/-!
A whole run of the program on a tree of files: the command line is read, the log file is made
empty, the build runs, and its failures go to the error output. The exit code is 0 if nothing
failed, 1 if something did, that of the refusal if the command line is no good, and one of its own
if the program stops by itself.
-/

namespace ShaderVariants

/-- What surrounds a run of the program. -/
structure Surroundings where
  /-- The home of the project, for directories that are not given. -/
  home : Path
  processors : Nat
  environment : Choices.Environment
  /-- What the names of temporary files end in. -/
  suffix : String

/-- How a run of the program ends. -/
structure ProgramEnd (σ : Type) where
  exit : Nat
  errors : String
  tree : FileTree
  state : σ

namespace Program

/-- The variable with the filter for the log. -/
def logVariable : String := "RUST_LOG"

/-- Makes an empty log file and the directories above it. -/
def startLog (tree : FileTree) (path : Path) : Except OsError Place × FileTree :=
  match (path.parent?.map tree.makeDirectories).getD (.ok (), tree) with
  | (.error e, tree) => (.error e, tree)
  | (.ok (), tree) =>
      match tree.filePlace path with
      | .error e => (.error e, tree)
      | .ok place => (.ok place, tree.put place (.file .empty))

/-- Writes the log into its file, unless that is gone. -/
def finishLog (tree : FileTree) (place : Place) (lines : List LogLine) : FileTree :=
  match tree.entry? place with
  | some (.file _) => tree.put place (.file (String.join (lines.map LogLine.fileText)).toUTF8)
  | _ => tree

def errorText (message : String) (source : Option String) : String :=
  match source with
  | none => s!"Error: {message}\n"
  | some source => s!"Error: {message}\n\nCaused by:\n    {source}\n"

def failureText (failures : List String) : String :=
  String.join (s!"{failures.length} shader failure(s):\n" :: failures.map (s!"  {·}\n"))

/-- What a program that stops by itself exits with. -/
def stopCode : Nat := 101

/-- The exit code and the error output of a build. -/
def verdict : Except BuildError Summary → Nat × String
  | .error .overflow => (stopCode, BuildError.overflow.message ++ "\n")
  | .error e => (1, errorText e.message e.source)
  | .ok summary => if summary.succeeded then (0, "") else (1, failureText summary.failures)

/-- Runs the build and writes its log to a place. -/
def build (around : Surroundings) (c : Choices) (place : Place) (runner : Runner (FileTree × σ))
    (tree : FileTree) (state : σ) : ProgramEnd σ :=
  let filter := LogFilter.ofSetting (around.environment.lookup logVariable)
  let r := Build.run around.suffix (c.config around.home around.processors) runner tree state
  let (exit, errors) := verdict r.result
  ⟨exit, errors, finishLog r.tree place (r.log.filter filter.keeps), r.state⟩

def run (around : Surroundings) (args : List String) (runner : Runner (FileTree × σ))
    (tree : FileTree) (state : σ) : ProgramEnd σ :=
  match Choices.read around.environment args with
  | .error refusal => ⟨refusal.exitCode, refusal.message ++ "\n", tree, state⟩
  | .ok c =>
      match startLog tree (c.logPath around.home) with
      | (.error e, tree) => ⟨1, errorText e.message none, tree, state⟩
      | (.ok place, tree) => build around c place runner tree state

end Program
end ShaderVariants
