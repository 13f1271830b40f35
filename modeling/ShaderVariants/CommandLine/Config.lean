import ShaderVariants.Build.Basic
import ShaderVariants.CommandLine.Choices

/-!
The build that the choices of a command line stand for. Directories that are not given lie below
the home of the project.
-/

namespace ShaderVariants.Choices

/-- A place below the home of the project. -/
def below (home : Path) (names : List String) : Path :=
  names.foldl (fun dir name => dir.join (.single name)) home

def sourceDir (c : Choices) (home : Path) : Path :=
  (c.path? .sourceDir).getD (below home ["shaders", "source"])

def declaredDir (c : Choices) (home : Path) : Path :=
  (c.path? .declaredDir).getD (below home ["shaders", "generated"])

/-- The limit for one call of the compiler; zero stands for none. -/
def timeoutMs (c : Choices) : Option Nat :=
  match (c.number? .timeout).getD 120 with
  | 0 => none
  | seconds => some (seconds * 1000)

/-- The settings of the compiler on a machine with so many processors. -/
def compilerSettings (c : Choices) (home : Path) (processors : Nat) : CompilerSettings where
  compiler := (c.value? .compiler).getD CompilerSettings.standard.compiler
  shaderModel := (c.value? .shaderModel).getD CompilerSettings.standard.shaderModel
  sourceDir := c.sourceDir home
  includeDir := c.declaredDir home
  outputDir := (c.path? .compiledDir).getD (below home ["shaders", "compiled"])
  debugInfo := c.isOn .debugInfo
  timeoutMs := c.timeoutMs
  parallelJobs := (c.number? .parallelJobs).getD processors
  outputIsFailure := !c.isOn .allowWarnings

def config (c : Choices) (home : Path) (processors : Nat) : BuildConfig where
  sourceDir := c.sourceDir home
  targetDir := (c.path? .targetDir).getD (below home ["generated"])
  declaredDir := c.declaredDir home
  compiler := c.compilerSettings home processors
  compile := !c.isOn .noCompile

def logPath (c : Choices) (home : Path) : Path :=
  (c.path? .logFile).getD (below home ["target", "prepare_shaders.log"])

end ShaderVariants.Choices
