import ShaderVariants.Job
import ShaderVariants.Path

/-!
Settings of the external compiler, and the arguments with which it is called for a job.
-/

namespace ShaderVariants

structure CompilerSettings where
  /-- The program, by its name or its path. -/
  compiler : String
  shaderModel : String
  sourceDir : Path
  includeDir : Path
  /-- Where the compiled headers go. -/
  outputDir : Path
  debugInfo : Bool
  /-- How long a call may take, if there is a limit. -/
  timeoutMs : Option Nat
  parallelJobs : Nat
  /-- Whether a call that prints anything has failed. -/
  outputIsFailure : Bool
  deriving DecidableEq, Repr

def CompilerSettings.standard : CompilerSettings where
  compiler := "dxc"
  shaderModel := "6_0"
  sourceDir := .ofText "shaders/source"
  includeDir := .ofText "shaders/source"
  outputDir := .ofText "shaders/compiled"
  debugInfo := false
  timeoutMs := some 120000
  parallelJobs := 1
  outputIsFailure := true

/-- Jobs run one after the other unless there is more than one worker. -/
def CompilerSettings.workers (s : CompilerSettings) : Nat := max s.parallelJobs 1

namespace Job

/-- The target profile, in small letters. -/
def profile (j : Job) (s : CompilerSettings) : String :=
  Text.lower s!"{j.stage.profile}_{s.shaderModel}"

def outputPath (j : Job) (s : CompilerSettings) : Path := s.outputDir.join (.ofText j.outputFile)

def sourcePath (j : Job) (s : CompilerSettings) : Path := s.sourceDir.join (.ofText j.source)

def defineArguments (j : Job) : List String := (j.defines ++ [j.stage.define]).map (s!"-D{·}")

def debugArguments : List String := ["-Zi", "-Qembed_debug", "-Od"]

def arguments (j : Job) (s : CompilerSettings) : List String :=
  [(j.sourcePath s).text,
    "-E", j.entryPoint,
    "-T", j.profile s,
    "-Fh", (j.outputPath s).text,
    "-Vn", j.byteCode,
    "-nologo", "-WX",
    s!"-I{s.includeDir.text}"] ++
  j.defineArguments ++
  if s.debugInfo then debugArguments else []

end Job
end ShaderVariants
