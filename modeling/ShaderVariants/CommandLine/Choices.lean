import ShaderVariants.CommandLine.Setting
import ShaderVariants.Path

/-!
Reading the arguments of a command line. Arguments are taken from left to right. The value of an
option that stands in an argument of its own is only judged when the next option or the end of
the line is reached, so an unknown argument behind it is found first. Variables count for the
settings that the command line leaves open.
-/

namespace ShaderVariants

/-- Why a command line does not lead to a build. -/
inductive Refusal where
  | unknownArgument (text : String)
  | missingValue (s : Setting)
  | emptyPath (s : Setting)
  | notSwitch (s : Setting) (value : String)
  | notNumber (s : Setting) (value : String)
  | givenTwice (s : Setting)
  /-- A value for an option that takes none. -/
  | needlessValue (option value : String)
  | helpWanted
  | versionWanted
  deriving DecidableEq, Repr

namespace Refusal

def exitCode : Refusal → Nat
  | .helpWanted | .versionWanted => 0
  | _ => 2

def message : Refusal → String
  | .unknownArgument text => s!"unexpected argument '{text}'"
  | .missingValue s => s!"a value is required for '--{s.option}'"
  | .emptyPath s => s!"the value for '--{s.option}' is empty"
  | .notSwitch s value => s!"'{value}' is neither true nor false, as '--{s.option}' needs"
  | .notNumber s value => s!"'{value}' is no number for '--{s.option}'"
  | .givenTwice s => s!"'--{s.option}' is given more than once"
  | .needlessValue option value => s!"'--{option}' takes no value, but has '{value}'"
  | .helpWanted => "usage: [--option value]... [--switch]..."
  | .versionWanted => "0.1.0"

end Refusal

/-- The values of the settings that were given. -/
structure Choices where
  values : List (Setting × String)
  deriving DecidableEq, Repr

namespace Choices

def empty : Choices := ⟨[]⟩

def value? (c : Choices) (s : Setting) : Option String := c.values.lookup s

/-- Judges a value. -/
def check (s : Setting) (value : String) : Except Refusal Unit :=
  match s.kind with
  | .path => if value.isEmpty then .error (.emptyPath s) else .ok ()
  | .text => .ok ()
  | .number => if (Setting.number? value).isSome then .ok () else .error (.notNumber s value)
  | .switch =>
      if value == "true" || value == "false" then .ok () else .error (.notSwitch s value)

def add (c : Choices) (s : Setting) (value : String) : Except Refusal Choices := do
  if (c.value? s).isSome then .error (.givenTwice s)
  else do
    check s value
    pure ⟨c.values ++ [(s, value)]⟩

/-! ## Arguments -/

/-- What an argument is by its looks. -/
inductive Argument where
  /-- Two dashes and a name, and what follows the first `=`. -/
  | long (name : String) (value : Option String)
  /-- A dash and a letter. -/
  | short (letter : Char)
  | plain
  deriving DecidableEq, Repr

def Argument.ofText (text : String) : Argument :=
  match text.toList with
  | '-' :: '-' :: rest =>
      match rest.span (· != '=') with
      | (name, []) => .long (String.ofList name) none
      | (name, _ :: value) => .long (String.ofList name) (some (String.ofList value))
  | '-' :: letter :: _ => .short letter
  | _ => .plain

/-- Where the reading of a command line stands. -/
structure Reading where
  choices : Choices
  /-- An option that is not judged yet, and its value if that has been read. -/
  pending : Option (Setting × Option String)
  deriving DecidableEq, Repr

namespace Reading

def start : Reading := ⟨.empty, none⟩

/-- Judges the pending option. -/
def settle (r : Reading) : Except Refusal Choices :=
  match r.pending with
  | none => .ok r.choices
  | some (s, none) => .error (.missingValue s)
  | some (s, some value) => r.choices.add s value

/-- Takes an option with its value. -/
def take (r : Reading) (s : Setting) (value : String) : Except Refusal Reading := do
  let choices ← r.settle
  pure ⟨← choices.add s value, none⟩

def wait (r : Reading) (s : Setting) : Except Refusal Reading := do
  pure ⟨← r.settle, some (s, none)⟩

/-- An option that ends the reading. -/
def stop (r : Reading) (refusal : Refusal) : Except Refusal Reading := do
  let _ ← r.settle
  .error refusal

/-- Options that ask for something else than a build. -/
def question? : String → Option Refusal
  | "help" => some .helpWanted
  | "version" => some .versionWanted
  | _ => none

/-- Takes a long option. -/
def takeLong (r : Reading) (text name : String) (value : Option String) :
    Except Refusal Reading :=
  match question? name, Setting.ofOption? name, value with
  | some refusal, _, none => r.stop refusal
  | some _, _, some value => .error (.needlessValue name value)
  | none, none, _ => .error (.unknownArgument text)
  | none, some s, value =>
      match s.kind == .switch, value with
      | true, none => r.take s "true"
      | true, some value => .error (.needlessValue name value)
      | false, some value => r.take s value
      | false, none => r.wait s

def step (r : Reading) (text : String) : Except Refusal Reading :=
  match Argument.ofText text with
  | .long name value => r.takeLong text name value
  | .short 'h' => r.stop .helpWanted
  | .short 'V' => r.stop .versionWanted
  | .short _ => .error (.unknownArgument text)
  | .plain =>
      match r.pending with
      | some (s, none) => .ok { r with pending := some (s, some text) }
      | _ => .error (.unknownArgument text)

/-- Two dashes end the options, and nothing may follow them. -/
def readAll : Reading → List String → Except Refusal Choices
  | r, [] => r.settle
  | r, "--" :: [] => r.settle
  | _, "--" :: text :: _ => .error (.unknownArgument text)
  | r, text :: rest => do readAll (← r.step text) rest

end Reading

/-! ## Variables -/

abbrev Environment := List (String × String)

/-- Takes the variable of a setting that is still open. -/
def addVariable (env : Environment) (c : Choices) (s : Setting) : Except Refusal Choices :=
  match c.value? s, s.envName.bind fun name => env.lookup name with
  | none, some value => c.add s value
  | _, _ => .ok c

def read (env : Environment) (args : List String) : Except Refusal Choices := do
  Setting.all.foldlM (addVariable env) (← Reading.start.readAll args)

/-! ## Values -/

def path? (c : Choices) (s : Setting) : Option Path := (c.value? s).map .ofText

def number? (c : Choices) (s : Setting) : Option Nat := (c.value? s).bind Setting.number?

def isOn (c : Choices) (s : Setting) : Bool := c.value? s == some "true"

end Choices
end ShaderVariants
