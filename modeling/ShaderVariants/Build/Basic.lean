import ShaderVariants.Build.Intake
import ShaderVariants.Build.Output
import ShaderVariants.Compile.Run
import ShaderVariants.Preset

/-!
A whole build: the presets and the description files are taken into a catalog, its headers are
published, and the compiler is run for every variant. The header of all compiled code is only
published when nothing has failed. Descriptions and jobs that fail are failures of the build and
part of its summary; a directory or a header that cannot be written ends it.
-/

namespace ShaderVariants

structure BuildConfig where
  sourceDir : Path
  /-- Where the C++ headers go. -/
  targetDir : Path
  /-- Where the shader headers go. -/
  declaredDir : Path
  compiler : CompilerSettings
  /-- Whether the compiler is run. -/
  compile : Bool
  deriving DecidableEq, Repr

structure Summary where
  written : List Path
  unchanged : List Path
  /-- The outcomes of the jobs, if the compiler was run. -/
  report : Option Report
  failures : List String
  deriving DecidableEq, Repr

def Summary.succeeded (s : Summary) : Bool := s.failures.isEmpty

/-- What ends a build. -/
inductive BuildError where
  | fault (fault : Fault)
  | system (cause : OsError)
  /-- A sum of sizes has left the machine words, where the whole program stops. -/
  | overflow
  deriving DecidableEq, Repr

def BuildError.message : BuildError → String
  | .fault f => f.message
  | .system cause => cause.message
  | .overflow => Fault.overflow.message

/-- What lies behind an error, where that is an error of its own. -/
def BuildError.source : BuildError → Option String
  | .fault f => f.source
  | .system _ | .overflow => none

structure BuildResult (σ : Type) where
  result : Except BuildError Summary
  tree : FileTree
  state : σ
  log : List LogLine

namespace Build

def foundLine (dir : Path) (paths : List Path) : LogLine :=
  ⟨.info, .build, s!"found {paths.length} shader descriptions in {dir.text}"⟩

def endLine (s : Summary) : LogLine :=
  ⟨.info, .build, s!"{s.written.length} files written, {s.unchanged.length} unchanged, " ++
    s!"{s.failures.length} failures"⟩

/-- The presets and all description files. -/
def intake (tree : FileTree) (dir : Path) : Except BuildError Intake × List LogLine :=
  let (catalog, log) := Preset.addAll Preset.standard .empty
  match tree.descriptionFiles dir with
  | .error e => (.error (.system e), log)
  | .ok paths =>
      let i := Intake.takeFiles tree (.start catalog (log ++ [foundLine dir paths])) paths
      if i.overflowed then (.error .overflow, i.log) else (.ok i, i.log)

/-- Publishes the headers of a catalog in both languages. -/
def publishHeaders (suffix : String) (config : BuildConfig) (i : Intake) (tree : FileTree) :
    Except Fault Unit × Output :=
  let target := i.catalog.targetHeaders i.types
  match Output.publishAll suffix config.targetDir (.start tree) target with
  | (.error fault, o) => (.error fault, o)
  | (.ok (), o) =>
      Output.publishAll suffix config.declaredDir o (i.catalog.declaredHeaders i.types)

/-- Publishes the header of all compiled code if nothing has failed. -/
def publishByteCodes (suffix : String) (dir : Path) (catalog : Catalog) (o : Output) :
    Except Fault Unit × Output :=
  if catalog.hasFailed then (.ok (), o)
  else Output.publishAll suffix dir o [Header.byteCodes catalog.jobs]

def finish (o : Output) (catalog : Catalog) (report : Option Report) (state : σ) :
    BuildResult σ :=
  let summary : Summary := ⟨o.written, o.unchanged, report, catalog.failures⟩
  ⟨.ok summary, o.tree, state, o.log ++ [endLine summary]⟩

/-- Runs the compiler for all jobs. -/
def compile (suffix : String) (config : BuildConfig) (runner : Runner (FileTree × σ))
    (catalog : Catalog) (o : Output) (state : σ) : BuildResult σ :=
  let dir := config.compiler.outputDir
  match o.tree.makeDirectories dir with
  | (.error e, tree) => ⟨.error (.system e), tree, state, o.log⟩
  | (.ok (), tree) =>
      let r := Compile.run config.compiler runner catalog catalog.jobs (tree, state)
      let o := { o with tree := r.state.1, log := o.log ++ r.log }
      match publishByteCodes suffix dir r.catalog o with
      | (.error fault, o) => ⟨.error (.fault fault), o.tree, r.state.2, o.log⟩
      | (.ok (), o) => finish o r.catalog (some r.report) r.state.2

/-- A build on a tree of files. Temporary files have names that end in `suffix`. -/
def run (suffix : String) (config : BuildConfig) (runner : Runner (FileTree × σ))
    (tree : FileTree) (state : σ) : BuildResult σ :=
  match intake tree config.sourceDir with
  | (.error e, log) => ⟨.error e, tree, state, log⟩
  | (.ok i, _) =>
      match publishHeaders suffix config i tree with
      | (.error fault, o) => ⟨.error (.fault fault), o.tree, state, i.log ++ o.log⟩
      | (.ok (), o) =>
          let o := { o with log := i.log ++ o.log }
          if config.compile then compile suffix config runner i.catalog o state
          else finish o i.catalog none state

end Build
end ShaderVariants
