/-!
Lines of the build log. Every line has a level, the component it comes from, and a message; what
a component is called is part of the log's format.
-/

namespace ShaderVariants

inductive LogLevel where
  | error
  | warn
  | info
  | debug
  deriving DecidableEq, Repr

namespace LogLevel

def name : LogLevel → String
  | .error => "ERROR"
  | .warn => "WARN"
  | .info => "INFO"
  | .debug => "DEBUG"

/-- How much detail a level stands for. -/
def detail : LogLevel → Nat
  | .error => 1
  | .warn => 2
  | .info => 3
  | .debug => 4

end LogLevel

inductive Component where
  | shader
  | catalog
  | compile
  | preset
  | publish
  | process
  | build
  deriving DecidableEq, Repr

def Component.target : Component → String
  | .shader => "shadercompiler::shaders::model"
  | .catalog => "shadercompiler::shaders::session"
  | .compile => "shadercompiler::shaders::driver"
  | .preset => "shadercompiler::shaders::populators"
  | .publish => "shadercompiler::shaders::file_writer"
  | .process => "shadercompiler::shaders::process"
  | .build => "shadercompiler::shaders::build_tasks"

structure LogLine where
  level : LogLevel
  component : Component
  message : String
  deriving DecidableEq, Repr

namespace LogLine

def short (line : LogLine) : String :=
  s!"{line.level.name} {line.component.target}: {line.message}"

/-- A line as it stands in a log file: the name of the level takes five columns. -/
def fileText (line : LogLine) : String :=
  let blanks := String.ofList (List.replicate (5 - line.level.name.length) ' ')
  s!"[{line.level.name}{blanks} {line.component.target}] {line.message}\n"

end LogLine
end ShaderVariants
