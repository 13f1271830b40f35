import ShaderVariants.Script.Pattern
import ShaderVariants.Script.Shell

/-!
Running scripts. Every command changes the state of the shell; one that leaves the loop, the
function or the script that it is in keeps those behind it from being run. The first argument of
each function bounds the depth of the run, and a script that is not done within it counts as one
that never ends.
-/

namespace ShaderVariants.Script

open Format (Bytes bytesOf)

namespace Shell

/-- Hands the names of assignments on to programs. -/
def exporting (sh : Shell) (values : List Assignment) : Shell :=
  { sh with exported := values.map (·.name) ++ sh.exported }

/-- The state for commands whose end does not end the script. -/
def inner (sh : Shell) : Shell := { sh with atEnd := none, jobs := [] }

/-- The state behind commands that ran in an inner state. -/
def outer (sh inner : Shell) : Shell :=
  let flow := match inner.flow with
    | .killed => .killed
    | .endless => .endless
    | _ => sh.flow
  { sh with
    tree := { inner.tree with working := sh.tree.working }
    time := inner.time
    events := inner.events
    status := inner.status
    flow }

/-- The state behind a loop, given the one that its last round left. -/
def unloop (sh after : Shell) : Shell :=
  let flow := match after.flow with
    | .leaving n => if n ≤ 1 then .going else .leaving (n - 1)
    | .repeating n => if n ≤ 1 then .going else .repeating (n - 1)
    | flow => flow
  { after with loops := sh.loops, flow }

def dropTrailing (bytes : Bytes) : Bytes := (bytes.reverse.dropWhile (· == 10)).reverse

/-- Sends a stream to another place. -/
def direct (sh : Shell) (stream : Nat) (target : Stream) : Shell :=
  match stream with
  | 1 => { sh with output := target }
  | 2 => { sh with errors := target }
  | _ => sh

def streamOf (sh : Shell) (stream : String) : Stream :=
  match stream with
  | "1" => sh.output
  | "2" => sh.errors
  | _ => .dropped

/-- Opens a file to print to. -/
def openOutput (sh : Shell) (stream : Nat) (path : String) (append : Bool) :
    Except String Shell :=
  if path = "/dev/null" then .ok (sh.direct stream .dropped)
  else if path = "/dev/stdout" then .ok (sh.direct stream sh.output)
  else if path = "/dev/stderr" then .ok (sh.direct stream sh.errors)
  else
    let old := if append then (sh.tree.readFile (.ofText path)).toOption.getD .empty else .empty
    match sh.tree.filePlace (.ofText path), sh.tree.writeFile (.ofText path) old with
    | .ok place, .ok tree => .ok ({ sh with tree }.direct stream (.file place))
    | .error .notFound, _ => .error s!"cannot create {path}: Directory nonexistent"
    | .error e, _ => .error s!"cannot create {path}: {Utility.wordsOf e}"
    | _, .error e => .error s!"cannot create {path}: {Utility.wordsOf e}"

/-- Opens a file to read from. -/
def openInput (sh : Shell) (path : String) : Except String Shell :=
  match Utility.contentOf sh.tree path with
  | .ok input => .ok { sh with input }
  | .error .isDirectory => .ok { sh with input := [] }
  | .error .notFound => .error s!"cannot open {path}: No such file"
  | .error e => .error s!"cannot open {path}: {Utility.wordsOf e}"

/-- The streams of a state put back to what they were before redirections. -/
def restoreStreams (sh before : Shell) (redirects : List Redirect) : Shell :=
  { sh with
    output := before.output
    errors := before.errors
    input := if redirects.any Redirect.isInput then before.input else sh.input }

/-- What a program called `name` is said to be when there is none. -/
def missing (sh : Shell) (line : Nat) (label name : String) : Shell :=
  if name.contains '/' && (sh.tree.find (.ofText name)).isOk then
    sh.complain line s!"{label}{name}: Permission denied" 126
  else sh.complain line s!"{label}{name}: not found" 127

/-- A number that a command takes as its status. -/
def statusOf? (s : String) : Option Nat :=
  if s.isEmpty || !s.toList.all Char.isDigit then none else s.toNat?.filter (· ≤ 0x7FFFFFFF)

def exit (sh : Shell) (line : Nat) (name : String) (flow : Flow) : List String → Shell
  | [] => { sh with flow }
  | arg :: _ =>
      match statusOf? arg with
      | some n => { sh with status := n % 256, flow }
      | none => { sh.complain line s!"{name}: Illegal number: {arg}" 2 with flow := .exited }

/-- Leaves loops, or goes on with their next round. -/
def skip (sh : Shell) (flow : Nat → Flow) (args : List String) : Shell :=
  let levels := min (((args.head?.bind String.toNat?).getD 1)) sh.loops
  if levels = 0 then { sh with status := 0 } else { sh with status := 0, flow := flow levels }

/-- Reads a line into variables; the last of them takes the rest of it. -/
def readLine (sh : Shell) (args : List String) : Shell :=
  let names := args.filter (!·.startsWith "-")
  let (line, rest) := sh.input.span (· != 10)
  let text := String.fromUTF8? ⟨line.toArray⟩ |>.getD ""
  let sh := assignFields { sh with input := rest.drop 1 } names text.toList
  { sh with status := if rest.isEmpty then 1 else 0 }
where
  assignFields (sh : Shell) : List String → List Char → Shell
    | [], _ => sh
    | [name], s =>
        let s := (s.dropWhile isSeparator).reverse.dropWhile isSeparator
        sh.set name (String.ofList s.reverse)
    | name :: names, s =>
        let s := s.dropWhile isSeparator
        let (field, s) := s.span (!isSeparator ·)
        assignFields (sh.set name (String.ofList field)) names s

/-- Sets options and arguments. -/
def configure (sh : Shell) : List String → Shell
  | "--" :: args => { sh with arguments := args, status := 0 }
  | "-e" :: args => configure { sh with strict := true } args
  | "+e" :: args => configure { sh with strict := false } args
  | [] => { sh with status := 0 }
  | arg :: args =>
      if arg.startsWith "-" || arg.startsWith "+" then configure sh args
      else { sh with arguments := arg :: args, status := 0 }

def trap (sh : Shell) : List String → Shell
  | action :: targets =>
      let sh := { sh with status := 0 }
      targets.foldl
        (fun sh target =>
          if target = "EXIT" || target = "0" then
            { sh with atEnd := if action = "-" then none else some action }
          else
            match signal? target with
            | some n =>
                let others := sh.ignored.filter (· != n)
                { sh with ignored := if action.isEmpty then n :: others else others }
            | none => sh)
        sh
  | [] => { sh with status := 0 }

def changeDirectory (sh : Shell) (line : Nat) (args : List String) : Shell :=
  let dir := args.headD "/"
  match sh.tree.find (.ofText dir) with
  | .ok (place, .directory) =>
      { sh with tree := { sh.tree with working := place }, status := 0 }
  | _ => sh.complain line s!"cd: can't cd to {dir}" 2

/-- Why an expression has no value, in the words of a complaint. -/
def problemWords (text : String) : Arithmetic.Problem → String
  | .expecting what => s!"arithmetic expression: expecting {what}: \"{text}\""
  | .divisionByZero => s!"arithmetic expression: division by zero: \"{text}\""
  | .notNumber value => s!"Illegal number: {value}"

def assignAll (sh : Shell) (pairs : List String) : Shell :=
  pairs.foldl
    (fun sh pair =>
      match pair.toList.span (· != '=') with
      | (name, '=' :: value) => sh.set (String.ofList name) (String.ofList value)
      | _ => sh)
    { sh with status := 0 }

/-- Commands of the shell itself that need no commands of their own. -/
def builtin? (sh : Shell) (line : Nat) (name : String) (args : List String) : Option Shell :=
  match name with
  | ":" => some { sh with status := 0 }
  | "true" => some { sh with status := 0 }
  | "false" => some { sh with status := 1 }
  | "echo" => some { sh.print (Utility.echo args) with status := 0 }
  | "printf" => some (sh.suffer (Utility.printf sh.tree s!"{sh.name}: {line}: printf: " args))
  | "test" => some (condition "test" args)
  | "[" =>
      if args.getLast? = some "]" then some (condition "[" args.dropLast)
      else some (sh.complain line "[: missing ]" 2)
  | "exit" => some (sh.exit line "exit" .exited args)
  | "return" => some (sh.exit line "return" .returned args)
  | "break" => some (sh.skip .leaving args)
  | "continue" => some (sh.skip .repeating args)
  | "shift" =>
      let n := (args.head?.bind String.toNat?).getD 1
      if sh.arguments.length < n then
        some { sh.complain line "shift: can't shift that many" 2 with flow := .exited }
      else some { sh with arguments := sh.arguments.drop n, status := 0 }
  | "set" => some (sh.configure args)
  | "read" => some (sh.readLine args)
  | "cd" => some (sh.changeDirectory line args)
  | "pwd" =>
      let dir := "/" ++ String.intercalate "/" sh.tree.working
      some { sh.print (bytesOf (dir ++ "\n")) with status := 0 }
  | "kill" => some (sh.kill line args)
  | "wait" => some { sh.passTo (sh.jobs.foldl max sh.time) with jobs := [], status := 0 }
  | "trap" => some (sh.trap args)
  | "export" =>
      let names := args.map fun pair => String.ofList (pair.toList.takeWhile (· != '='))
      some { sh.assignAll args with exported := names ++ sh.exported }
  | "readonly" => some (sh.assignAll args)
  | "local" => some (sh.assignAll args)
  | "unset" =>
      some { sh with vars := sh.vars.filter (!args.contains ·.1), status := 0 }
  | "umask" => some { sh with status := 0 }
  | "ulimit" => some { sh with status := 0 }
  | _ => none
where
  condition (name : String) (args : List String) : Shell :=
    match holds sh.tree args with
    | .ok b => { sh with status := if b then 0 else 1 }
    | .error words => sh.complain line s!"{name}: {words}" 2

end Shell

/-- The names that scripts are run by. -/
def isShellName (name : String) : Bool := ["sh", "dash", "bash"].contains name

/-- The operator of a parameter expression, the name before it and the word behind it. -/
def parameterParts (expression : String) : String × String × String :=
  let chars := expression.toList
  let name := match chars with
    | c :: rest =>
        if isNameStart c then c :: rest.takeWhile isNameChar
        else if c.isDigit then c :: rest.takeWhile Char.isDigit
        else [c]
    | [] => []
  let rest := chars.drop name.length
  let sign := ([":-", ":=", ":+", ":?", "-", "=", "+", "?", "%%", "%", "##", "#"].find?
    fun sign => sign.toList.isPrefixOf rest).getD ""
  (String.ofList name, sign, String.ofList (rest.drop sign.length))

mutual

/-- The output of a script, and the state after it. -/
def outputOf : (left : Nat) → Shell → String → Shell × String
  | 0, sh, _ => ({ sh with flow := .endless }, "")
  | left + 1, sh, script =>
      let sub := runScript left { sh.inner with output := .piped, pipe := [] } (programOf script)
      let bytes := Shell.dropTrailing sub.pipe.reverse.flatten
      (sh.outer sub, (String.fromUTF8? ⟨bytes.toArray⟩).getD "")

def parameter : (left : Nat) → Shell → String → Bool → Shell × List Shell.Fragment
  | 0, sh, _, _ => ({ sh with flow := .endless }, [])
  | left + 1, sh, expression, quoted =>
      if expression = "@" then (sh, Shell.argumentFragments quoted sh.arguments)
      else if expression = "*" && !quoted then (sh, Shell.argumentFragments false sh.arguments)
      else if expression.startsWith "#" && expression.length > 1 then
        let value := (sh.value? (expression.drop 1).toString).getD ""
        (sh, [.text (toString value.utf8ByteSize) quoted])
      else
        let (name, sign, word) := parameterParts expression
        let value := sh.value? name
        let given := if sign.startsWith ":" then value.filter (!·.isEmpty) else value
        let plain (s : String) : Shell × List Shell.Fragment := (sh, [.text s quoted])
        let other (_ : Unit) : Shell × String :=
          let (sh, fragments) := expand left sh (wordOfText word)
          (sh, Shell.textOf fragments)
        let pattern := Pattern.ofText word
        let chars := (value.getD "").toList
        match sign with
        | "" => plain (value.getD "")
        | "%" => plain (String.ofList (pattern.dropEnd false chars))
        | "%%" => plain (String.ofList (pattern.dropEnd true chars))
        | "#" => plain (String.ofList (pattern.dropStart false chars))
        | "##" => plain (String.ofList (pattern.dropStart true chars))
        | sign =>
            match given with
            | some s =>
                if sign.endsWith "+" then
                  let (sh, s) := other ()
                  (sh, [.text s quoted])
                else plain s
            | none =>
                if sign.endsWith "+" then plain ""
                else
                  let (sh, s) := other ()
                  if sign.endsWith "=" then (sh.set name s, [.text s quoted])
                  else if sign.endsWith "?" then
                    let words := if s.isEmpty then "parameter not set" else s
                    ({ sh.complain 1 s!"{name}: {words}" 2 with flow := .exited }, [])
                  else (sh, [.text s quoted])

def expand : (left : Nat) → Shell → Word → Shell × List Shell.Fragment
  | 0, sh, _ => ({ sh with flow := .endless }, [])
  | _, sh, [] => (sh, [])
  | left + 1, sh, piece :: rest =>
      let (sh, here) : Shell × List Shell.Fragment := match piece with
        | .text s quoted => (sh, [.text s quoted])
        | .parameter expression quoted => parameter left sh expression quoted
        | .output script quoted =>
            let (sh, s) := outputOf left sh script
            (sh, [.text s quoted])
        | .arithmetic expression quoted =>
            let (sh, fragments) := expand left sh (wordOfText expression)
            let text := Shell.textOf fragments
            match Arithmetic.evaluate sh.vars text with
            | .ok (n, vars) => ({ sh with vars }, [.text (toString n) quoted])
            | .error problem =>
                ({ sh.complain 1 (Shell.problemWords text problem) 2 with flow := .exited }, [])
      let (sh, later) := expand left sh rest
      (sh, here ++ later)

def fields : (left : Nat) → Shell → List Word → Shell × List String
  | 0, sh, _ => ({ sh with flow := .endless }, [])
  | _, sh, [] => (sh, [])
  | left + 1, sh, w :: ws =>
      let (sh, fragments) := expand left sh w
      let (sh, later) := fields left sh ws
      (sh, Shell.fieldsOf fragments ++ later)

def pattern : (left : Nat) → Shell → Word → Shell × Pattern
  | 0, sh, _ => ({ sh with flow := .endless }, [])
  | left + 1, sh, w =>
      let (sh, fragments) := expand left sh w
      (sh, fragments.flatMap fun fragment =>
        match fragment with
        | .text s true => Pattern.quoted s
        | .text s false => Pattern.ofText s
        | .cut => [.char ' '])

def redirect : (left : Nat) → Shell → List Redirect → Except String Shell
  | 0, sh, _ => .ok { sh with flow := .endless }
  | _, sh, [] => .ok sh
  | left + 1, sh, r :: rs => do
      let sh ← match r with
        | .output stream target append =>
            let (sh, fragments) := expand left sh target
            sh.openOutput stream (Shell.textOf fragments) append
        | .input source =>
            let (sh, fragments) := expand left sh source
            sh.openInput (Shell.textOf fragments)
        | .copy stream target =>
            let (sh, fragments) := expand left sh target
            .ok (sh.direct stream (sh.streamOf (Shell.textOf fragments)))
      redirect left sh rs

def assignments : (left : Nat) → Shell → List Assignment → Shell
  | 0, sh, _ => { sh with flow := .endless }
  | _, sh, [] => sh
  | left + 1, sh, a :: rest =>
      let (sh, fragments) := expand left sh a.value
      assignments left (sh.set a.name (Shell.textOf fragments)) rest

/-- Calls a function, a command of the shell or a program; `label` stands before the name of one
that is missing. -/
def call : (left : Nat) → Shell → Nat → (label : String) → String → List String → Shell
  | 0, sh, _, _, _, _ => { sh with flow := .endless }
  | left + 1, sh, line, label, name, args =>
      match sh.functions.lookup name with
      | some body =>
          let after := run left { sh with arguments := args } body
          let flow := if after.flow == .returned then .going else after.flow
          { after with arguments := sh.arguments, flow }
      | none =>
          match sh.builtin? line name args with
          | some sh => sh
          | none =>
              if name = "eval" then
                runScript left { sh with status := 0 } (programOf (String.intercalate " " args))
              else if name = "command" then
                match args with
                | name :: args => call left sh line label name args
                | [] => { sh with status := 0 }
              else if isShellName name then
                let vars := sh.vars.filter fun v => sh.exported.contains v.1
                let inner := { sh.inner with vars, functions := [], loops := 0 }
                let sub := shellProgram left inner name args
                { sh.outer sub with pipe := sub.pipe }
              else
                match Utility.run? sh.tree sh.input name args with
                | some effect => sh.suffer effect
                | none => sh.missing line label name

/-- A shell with arguments of its own: a script in an argument, or in a file. -/
def shellProgram : (left : Nat) → Shell → String → List String → Shell
  | 0, sh, _, _ => { sh with flow := .endless }
  | left + 1, sh, name, args =>
      match args with
      | "-c" :: script :: rest =>
          let sh := { sh with name := rest.headD name, arguments := rest.drop 1, status := 0 }
          finish left (runScript left sh (programOf script))
      | ["-c"] => { sh with name }.complain 0 "-c requires an argument" 2
      | "-e" :: rest => shellProgram left { sh with strict := true } name rest
      | "--" :: file :: rest => scriptFile left sh name file rest
      | file :: rest => scriptFile left sh name file rest
      | [] =>
          let script := (String.fromUTF8? ⟨sh.input.toArray⟩).getD ""
          let sh := { sh with name, arguments := [], input := [], status := 0 }
          finish left (runScript left sh (programOf script))

def scriptFile : (left : Nat) → Shell → String → String → List String → Shell
  | 0, sh, _, _, _ => { sh with flow := .endless }
  | left + 1, sh, name, file, rest =>
      match Utility.contentOf sh.tree file with
      | .ok bytes =>
          let script := (String.fromUTF8? ⟨bytes.toArray⟩).getD ""
          let sh := { sh with name := file, arguments := rest, status := 0 }
          finish left (runScript left sh (programOf script))
      | .error .isDirectory => { sh with status := 2 }
      | .error .notFound => { sh with name }.complain 0 s!"cannot open {file}: No such file" 2
      | .error e => { sh with name }.complain 0 s!"cannot open {file}: {Utility.wordsOf e}" 2

/-- Runs what was kept for the end. -/
def finish : (left : Nat) → Shell → Shell
  | 0, sh => { sh with flow := .endless }
  | left + 1, sh =>
      match sh.atEnd, sh.flow with
      | _, .killed => sh
      | _, .endless => sh
      | none, _ => sh
      | some script, _ =>
          let after := runScript left { sh with flow := .going, atEnd := none } (programOf script)
          let status := if after.flow == .exited then after.status else sh.status
          { after with status }

def simpleCommand : (left : Nat) → Shell → Nat → List Assignment → List Word → List Redirect →
    Shell
  | 0, sh, _, _, _, _ => { sh with flow := .endless }
  | left + 1, sh, line, values, words, redirects =>
      let (sh, args) := fields left sh words
      let before := sh
      if !sh.isGoing then sh
      else
        match redirect left sh redirects with
        | .error problem =>
            let sh := sh.complain line problem 2
            if args.head? == some "exec" || args.head? == some ":" then { sh with flow := .exited }
            else sh
        | .ok opened =>
            match args with
            | [] =>
                let sh := assignments left { opened with status := 0 } values
                { sh with flow := opened.flow }.restoreStreams before redirects
            | ["exec"] => { opened with status := 0 }
            | "exec" :: name :: args =>
                let assigned := (assignments left opened values).exporting values
                let after := call left assigned line "exec: " name args
                let sh := after.restoreStreams opened redirects
                if sh.flow == .going then { sh with flow := .exited, atEnd := none } else sh
            | name :: args =>
                let assigned := (assignments left opened values).exporting values
                let after := (call left assigned line "" name args).restoreStreams before redirects
                if values.isEmpty then after
                else { after with vars := sh.vars, exported := sh.exported }

/-- Repeats a body for as long as its condition succeeds or fails as expected. -/
def roundsOf : (left : Nat) → Shell → Bool → Command → Command → Shell
  | 0, sh, _, _, _ => { sh with flow := .endless }
  | left + 1, sh, expected, condition, body =>
      let tested := run left { sh with checked := true } condition
      let tested := { tested with checked := sh.checked }
      if !tested.isGoing then tested
      else if (tested.status == 0) != expected then { tested with status := 0 }
      else
        let after := run left tested body
        match after.flow with
        | .going => roundsOf left after expected condition body
        | .repeating 1 => roundsOf left { after with flow := .going } expected condition body
        | _ => after

def eachOf : (left : Nat) → Shell → String → List String → Command → Shell
  | 0, sh, _, _, _ => { sh with flow := .endless }
  | _, sh, _, [], _ => sh
  | left + 1, sh, name, value :: values, body =>
      let after := run left (sh.set name value) body
      match after.flow with
      | .going => eachOf left after name values body
      | .repeating 1 => eachOf left { after with flow := .going } name values body
      | _ => after

def chosen : (left : Nat) → Shell → List Char → List Word → Shell × Bool
  | 0, sh, _, _ => ({ sh with flow := .endless }, false)
  | _, sh, _, [] => (sh, false)
  | left + 1, sh, text, w :: ws =>
      let (sh, p) := pattern left sh w
      if p.isMatch text then (sh, true) else chosen left sh text ws

/-- Runs one command. -/
def run : (left : Nat) → Shell → Command → Shell
  | 0, sh, _ => { sh with flow := .endless }
  | left + 1, sh, command =>
      if !sh.isGoing then sh
      else
        match command with
        | .nothing => sh
        | .simple line values words redirects =>
            let after := simpleCommand left sh line values words redirects
            if after.strict && !after.checked && after.status != 0 && after.isGoing then
              { after with flow := .exited }
            else after
        | .group body redirects =>
            if redirects.isEmpty then run left sh body
            else
              match redirect left sh redirects with
              | .error problem => sh.complain 1 problem 2
              | .ok opened => (run left opened body).restoreStreams sh redirects
        | .subshell body redirects =>
            match redirect left sh redirects with
            | .error problem => sh.complain 1 problem 2
            | .ok opened =>
                let sub := finish left (run left opened.inner body)
                { sh.outer sub with pipe := sub.pipe }
        | .pipe first second =>
            let a := finish left (run left { sh.inner with output := .piped, pipe := [] } first)
            let input := a.pipe.reverse.flatten
            let sh' := { sh.outer a with time := sh.time }
            let b := finish left (run left { sh'.inner with input } second)
            { sh'.outer b with time := max a.time b.time, pipe := b.pipe }
        | .invert body =>
            let after := run left { sh with checked := true } body
            { after with status := if after.status = 0 then 1 else 0, checked := sh.checked }
        | .both first second =>
            let a := run left { sh with checked := true } first
            let a := { a with checked := sh.checked }
            if a.status = 0 then run left a second else a
        | .either first second =>
            let a := run left { sh with checked := true } first
            let a := { a with checked := sh.checked }
            if a.status = 0 then a else run left a second
        | .andThen first second => run left (run left sh first) second
        | .background body =>
            let sub := finish left (run left { sh.inner with own := false, input := [] } body)
            { sh with
              tree := { sub.tree with working := sh.tree.working }
              events := sub.events
              jobs := sub.time :: sh.jobs
              status := 0 }
        | .loop expected condition body =>
            let after := roundsOf left { sh with loops := sh.loops + 1 } expected condition body
            sh.unloop after
        | .branch condition yes no =>
            let tested := run left { sh with checked := true } condition
            let tested := { tested with checked := sh.checked }
            if !tested.isGoing then tested
            else if tested.status = 0 then run left tested yes
            else run left { tested with status := 0 } no
        | .each name words body =>
            let (sh, values) := fields left sh words
            let after := eachOf left { sh with loops := sh.loops + 1, status := 0 } name values body
            sh.unloop after
        | .choose word patterns body rest =>
            let (sh, fragments) := expand left sh word
            let (sh, found) := chosen left sh (Shell.textOf fragments).toList patterns
            if found then run left { sh with status := 0 } body
            else if rest matches .nothing then { sh with status := 0 }
            else run left sh rest
        | .define name body =>
            { sh with functions := (name, body) :: sh.functions, status := 0 }

/-- Runs the lines of a script in their order. -/
def runLines : (left : Nat) → Shell → List Command → Shell
  | 0, sh, _ => { sh with flow := .endless }
  | _, sh, [] => sh
  | left + 1, sh, c :: cs => runLines left (run left sh c) cs

/-- Runs a script, and then tells of the fault in it. -/
def runScript : (left : Nat) → Shell → Program → Shell
  | 0, sh, _ => { sh with flow := .endless }
  | left + 1, sh, p =>
      let after := runLines left sh p.commands
      match p.fault with
      | some fault =>
          if after.isGoing then
            { after.complain fault.line s!"Syntax error: {fault.words}" 2 with flow := .exited }
          else after
      | none => after

end

end ShaderVariants.Script
