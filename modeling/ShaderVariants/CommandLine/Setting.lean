/-!
The settings of a build that can be chosen from outside: each has an option on the command line,
most can also be given by an environment variable, and the kind says which values are good.
-/

namespace ShaderVariants

inductive Setting where
  | sourceDir
  | targetDir
  | declaredDir
  | compiledDir
  | compiler
  | shaderModel
  | debugInfo
  | timeout
  | parallelJobs
  | allowWarnings
  | noCompile
  | logFile
  deriving DecidableEq, Repr

inductive SettingKind where
  /-- Any text but the empty one. -/
  | path
  | text
  | number
  /-- An option without a value; a variable says `true` or `false`. -/
  | switch
  deriving DecidableEq, Repr

namespace Setting

/-- In the order in which variables are looked at. -/
def all : List Setting :=
  [.sourceDir, .targetDir, .declaredDir, .compiledDir, .compiler, .shaderModel, .debugInfo,
    .timeout, .parallelJobs, .allowWarnings, .noCompile, .logFile]

/-- The option, without its dashes. -/
def option : Setting → String
  | .sourceDir => "shaders-source-dir"
  | .targetDir => "generated-cpp-dir"
  | .declaredDir => "generated-hlsl-dir"
  | .compiledDir => "compiled-shaders-dir"
  | .compiler => "compiler"
  | .shaderModel => "shader-model"
  | .debugInfo => "debug-info"
  | .timeout => "timeout-secs"
  | .parallelJobs => "parallel-jobs"
  | .allowWarnings => "allow-warnings"
  | .noCompile => "no-compile"
  | .logFile => "log-file"

/-- The environment variable, if there is one. -/
def envName : Setting → Option String
  | .sourceDir => some "SHADERS_SOURCE_DIR"
  | .targetDir => some "GENERATED_CPP_DIR"
  | .declaredDir => some "GENERATED_HLSL_DIR"
  | .compiledDir => some "COMPILED_SHADERS_DIR"
  | .compiler => some "SHADER_COMPILER"
  | .shaderModel => some "SHADER_MODEL"
  | .debugInfo => some "SHADER_DEBUG_INFO"
  | .timeout => some "SHADER_COMPILE_TIMEOUT"
  | .parallelJobs => some "SHADER_PARALLEL_JOBS"
  | .allowWarnings => some "SHADER_ALLOW_WARNINGS"
  | .noCompile => none
  | .logFile => some "SHADER_LOG_FILE"

def kind : Setting → SettingKind
  | .sourceDir | .targetDir | .declaredDir | .compiledDir | .compiler | .logFile => .path
  | .shaderModel => .text
  | .timeout | .parallelJobs => .number
  | .debugInfo | .allowWarnings | .noCompile => .switch

def ofOption? (name : String) : Option Setting := all.find? (·.option == name)

/-- Numbers have 64 bits. -/
def maxNumber : Nat := 0xFFFFFFFFFFFFFFFF

def digitsValue (digits : List Char) : Nat :=
  digits.foldl (fun n c => 10 * n + (c.toNat - '0'.toNat)) 0

/-- A number in decimal digits, behind a plus sign or not. -/
def number? (text : String) : Option Nat :=
  let digits := match text.toList with
    | '+' :: rest => rest
    | digits => digits
  if digits.isEmpty || digits.any (!·.isDigit) then none
  else
    let n := digitsValue digits
    if n ≤ maxNumber then some n else none

end Setting
end ShaderVariants
