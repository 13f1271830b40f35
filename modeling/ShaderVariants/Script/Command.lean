import ShaderVariants.Script.Token

/-!
Commands of the script language and how they are read. A script is read line by line: the lines
before one that breaks the grammar are commands, and the fault stands behind them.
-/

namespace ShaderVariants.Script

inductive Redirect where
  | output (stream : Nat) (target : Word) (append : Bool)
  | input (source : Word)
  /-- Sends a stream to where another one goes. -/
  | copy (stream : Nat) (target : Word)
  deriving DecidableEq, Repr

def Redirect.isInput : Redirect → Bool
  | .input _ => true
  | _ => false

structure Assignment where
  name : String
  value : Word
  deriving DecidableEq, Repr

inductive Command where
  | nothing
  | simple (line : Nat) (assignments : List Assignment) (words : List Word)
      (redirects : List Redirect)
  | group (body : Command) (redirects : List Redirect)
  | subshell (body : Command) (redirects : List Redirect)
  | pipe (first second : Command)
  | invert (body : Command)
  /-- The second command if the first one succeeds. -/
  | both (first second : Command)
  /-- The second command if the first one fails. -/
  | either (first second : Command)
  | andThen (first second : Command)
  | background (body : Command)
  /-- Repeats the body as long as the success of the condition is as expected. -/
  | loop (expected : Bool) (condition body : Command)
  | branch (condition yes no : Command)
  | each (name : String) (words : List Word) (body : Command)
  /-- The body if a pattern matches the word, or else what other patterns give. -/
  | choose (word : Word) (patterns : List Word) (body rest : Command)
  | define (name : String) (body : Command)
  deriving Repr, Inhabited

structure SyntaxFault where
  line : Nat
  words : String
  deriving DecidableEq, Repr

abbrev Parse := Except SyntaxFault

/-- What is read, and the lexemes behind it. -/
abbrev Ahead (α : Type) := α × List Lexeme

/-! ## Reserved words -/

def closers : List String := ["then", "else", "elif", "fi", "do", "done", "esac", "\x7d"]

def openers : List String := ["if", "while", "until", "for", "case", "\x7b", "!"]

def reserved? : Token → Option String
  | .word w => w.plain?.filter (closers ++ openers).contains
  | _ => none

def Token.name (t : Token) : String :=
  match t with
  | .operator s => s!"\"{s}\""
  | .redirect .. => "redirection"
  | .lineEnd => "newline"
  | .unterminated => "end of file"
  | .word _ =>
      match reserved? t with
      | some s => s!"\"{s}\""
      | none => "word"

def unexpected (last : Nat) (expected : Option String) : List Lexeme → Parse α
  | ⟨.unterminated, line⟩ :: _ => .error ⟨line, "Unterminated quoted string"⟩
  | rest =>
      let name := (rest.head?.map (·.token.name)).getD "end of file"
      let line := (rest.head?.map (·.line)).getD last
      let hint := (expected.map fun e => s!" (expecting \"{e}\")").getD ""
      .error ⟨line, s!"{name} unexpected{hint}"⟩

def skipLineEnds (ls : List Lexeme) : List Lexeme := ls.dropWhile (·.token == .lineEnd)

def startsWith? (s : String) : List Lexeme → Bool
  | ⟨.operator o, _⟩ :: _ => o == s
  | ⟨.word w, _⟩ :: _ => w.plain? == some s
  | _ => false

/-- Passes an operator or a reserved word. -/
def expect (last : Nat) (s : String) (ls : List Lexeme) : Parse (List Lexeme) :=
  if startsWith? s ls then .ok (ls.drop 1) else unexpected last (some s) ls

/-- Whether a list of commands ends here. -/
def endsList : List Lexeme → Bool
  | [] => true
  | ⟨.operator o, _⟩ :: _ => o == ")" || o == ";;"
  | l :: _ => ((reserved? l.token).map closers.contains).getD false

def isName (s : String) : Bool :=
  s.toList.head?.any isNameStart && s.toList.all isNameChar

/-! ## Simple commands -/

/-- A word that gives a value to a name. -/
def assignment? : Word → Option Assignment
  | .text s false :: rest =>
      match s.toList.span isNameChar with
      | (c :: name, '=' :: value) =>
          if isNameStart c then
            let value := if value.isEmpty then rest else .text (String.ofList value) false :: rest
            some ⟨String.ofList (c :: name), value⟩
          else none
      | _ => none
  | _ => none

def redirectOf (stream : Option Nat) (sign : String) (target : Word) : Redirect :=
  match sign with
  | "<" => .input target
  | "<&" => .copy (stream.getD 0) target
  | ">&" => .copy (stream.getD 1) target
  | ">>" => .output (stream.getD 1) target true
  | _ => .output (stream.getD 1) target false

/-- The words and redirections up to an operator. -/
def simpleParts (last : Nat) : (words : List Word) → (redirects : List Redirect) → List Lexeme →
    Parse (Ahead (List Word × List Redirect))
  | words, redirects, ⟨.word w, _⟩ :: ls => simpleParts last (words ++ [w]) redirects ls
  | words, redirects, ⟨.redirect stream sign, _⟩ :: ⟨.word w, _⟩ :: ls =>
      simpleParts last words (redirects ++ [redirectOf stream sign w]) ls
  | _, _, ⟨.redirect .., _⟩ :: ls => unexpected last none ls
  | words, redirects, ls => .ok ((words, redirects), ls)

/-- The redirections behind a command with a body. -/
def redirectsOf (last : Nat) :
    (redirects : List Redirect) → List Lexeme → Parse (Ahead (List Redirect))
  | redirects, ⟨.redirect stream sign, _⟩ :: ⟨.word w, _⟩ :: ls =>
      redirectsOf last (redirects ++ [redirectOf stream sign w]) ls
  | _, ⟨.redirect .., _⟩ :: ls => unexpected last none ls
  | redirects, ls => .ok (redirects, ls)

def simple (last : Nat) (ls : List Lexeme) : Parse (Ahead Command) := do
  let ((words, redirects), rest) ← simpleParts last [] [] ls
  if words.isEmpty && redirects.isEmpty then unexpected last none ls
  else
    let assignments := (words.takeWhile (assignment? · |>.isSome)).filterMap assignment?
    let words := words.dropWhile (assignment? · |>.isSome)
    let line := (ls.head?.map (·.line)).getD last
    pure (.simple line assignments words redirects, rest)

/-- Patterns with bars between them, up to a closing parenthesis and past it. -/
def patterns (last : Nat) : (before : List Word) → List Lexeme → Parse (Ahead (List Word))
  | before, ⟨.word w, _⟩ :: ⟨.operator "|", _⟩ :: ls => patterns last (before ++ [w]) ls
  | before, ⟨.word w, _⟩ :: ⟨.operator ")", _⟩ :: ls => .ok (before ++ [w], ls)
  | _, ⟨.word _, _⟩ :: ls => unexpected last (some ")") ls
  | _, ls => unexpected last none ls

/-- The words of a counted loop, up to the end of their line. -/
def loopWords : List Lexeme → List Word × List Lexeme
  | ⟨.word w, _⟩ :: ls =>
      let (ws, ls) := loopWords ls
      (w :: ws, ls)
  | ls => ([], ls)

/-- All the arguments of the script. -/
def allArguments : Word := [.parameter "@" true]

/-! ## The grammar -/

mutual

/-- Commands up to the end of the list that they are in. -/
def listOf (last : Nat) : (left : Nat) → List Lexeme → Parse (Ahead Command)
  | 0, ls => unexpected last none ls
  | left + 1, ls => do
      let ls := skipLineEnds ls
      if endsList ls then pure (.nothing, ls)
      else do
        let (c, ls) ← sequel last left ls
        match ls with
        | ⟨.operator ";", _⟩ :: ls => do
            let (d, ls) ← listOf last left ls
            pure (.andThen c d, ls)
        | ⟨.operator "&", _⟩ :: ls => do
            let (d, ls) ← listOf last left ls
            pure (.andThen (.background c) d, ls)
        | ⟨.lineEnd, _⟩ :: ls => do
            let (d, ls) ← listOf last left ls
            pure (.andThen c d, ls)
        | ls => if endsList ls then pure (c, ls) else unexpected last none ls

/-- A list that must hold a command. -/
def bodyOf (last : Nat) : (left : Nat) → List Lexeme → Parse (Ahead Command)
  | 0, ls => unexpected last none ls
  | left + 1, ls =>
      let ls := skipLineEnds ls
      if endsList ls && !ls.isEmpty then unexpected last none ls else listOf last left ls

/-- Pipelines joined by the success of those before them. -/
def sequel (last : Nat) : (left : Nat) → List Lexeme → Parse (Ahead Command)
  | 0, ls => unexpected last none ls
  | left + 1, ls => do
      let (c, ls) ← pipeline last left ls
      joined last left c ls

def joined (last : Nat) : (left : Nat) → Command → List Lexeme → Parse (Ahead Command)
  | 0, _, ls => unexpected last none ls
  | left + 1, c, ⟨.operator "&&", _⟩ :: ls => do
      let (d, ls) ← pipeline last left (skipLineEnds ls)
      joined last left (.both c d) ls
  | left + 1, c, ⟨.operator "||", _⟩ :: ls => do
      let (d, ls) ← pipeline last left (skipLineEnds ls)
      joined last left (.either c d) ls
  | _, c, ls => .ok (c, ls)

def pipeline (last : Nat) : (left : Nat) → List Lexeme → Parse (Ahead Command)
  | 0, ls => unexpected last none ls
  | left + 1, ls => do
      if startsWith? "!" ls then do
        let (c, ls) ← pipeline last left (ls.drop 1)
        pure (.invert c, ls)
      else do
        let (c, ls) ← command last left ls
        match ls with
        | ⟨.operator "|", _⟩ :: ls => do
            let (d, ls) ← pipeline last left (skipLineEnds ls)
            pure (.pipe c d, ls)
        | ls => pure (c, ls)

def command (last : Nat) : (left : Nat) → List Lexeme → Parse (Ahead Command)
  | 0, ls => unexpected last none ls
  | left + 1, ls =>
      match ls with
      | ⟨.operator "(", _⟩ :: ls => do
          let (body, ls) ← bodyOf last left ls
          let ls ← expect last ")" ls
          let (redirects, ls) ← redirectsOf last [] ls
          pure (.subshell body redirects, ls)
      | ⟨.word w, _⟩ :: ⟨.operator "(", _⟩ :: ⟨.operator ")", _⟩ :: ls => do
          let (body, ls) ← command last left (skipLineEnds ls)
          pure (.define (w.plain?.getD "") body, ls)
      | l :: rest =>
          match reserved? l.token with
          | none => simple last ls
          | some word => compound last left word ls rest
      | [] => unexpected last none []

/-- A command that starts with a reserved word. -/
def compound (last : Nat) :
    (left : Nat) → String → (whole rest : List Lexeme) → Parse (Ahead Command)
  | 0, _, whole, _ => unexpected last none whole
  | left + 1, "\x7b", _, ls => do
      let (body, ls) ← bodyOf last left ls
      let ls ← expect last "\x7d" ls
      let (redirects, ls) ← redirectsOf last [] ls
      pure (.group body redirects, ls)
  | left + 1, "if", _, ls => do
      let (c, ls) ← conditional last left ls
      let (redirects, ls) ← redirectsOf last [] ls
      pure (.group c redirects, ls)
  | left + 1, "while", _, ls => repeated last left true ls
  | left + 1, "until", _, ls => repeated last left false ls
  | left + 1, "for", _, ⟨.word w, line⟩ :: ls => do
      if !(w.plain?.map isName).getD false then throw ⟨line, "Bad for loop variable"⟩
      let counted := startsWith? "in" (skipLineEnds ls)
      let (words, ls) :=
        if counted then loopWords ((skipLineEnds ls).drop 1) else ([allArguments], ls)
      let ls ←
        if startsWith? ";" ls then pure (ls.drop 1)
        else if counted && ls.head?.map (·.token) != some .lineEnd then unexpected last none ls
        else pure ls
      let ls ← expect last "do" (skipLineEnds ls)
      let (body, ls) ← bodyOf last left ls
      let ls ← expect last "done" ls
      let (redirects, ls) ← redirectsOf last [] ls
      pure (.group (.each (w.plain?.getD "") words body) redirects, ls)
  | left + 1, "case", _, ⟨.word w, _⟩ :: ls => do
      let ls ← expect last "in" (skipLineEnds ls)
      let (c, ls) ← arms last left w (skipLineEnds ls)
      let (redirects, ls) ← redirectsOf last [] ls
      pure (.group c redirects, ls)
  | _, _, whole, _ => unexpected last none whole

/-- A conditional from behind its first word, past its last. -/
def conditional (last : Nat) : (left : Nat) → List Lexeme → Parse (Ahead Command)
  | 0, ls => unexpected last none ls
  | left + 1, ls => do
      let (condition, ls) ← bodyOf last left ls
      let ls ← expect last "then" ls
      let (yes, ls) ← bodyOf last left ls
      if startsWith? "elif" ls then do
        let (no, ls) ← conditional last left (ls.drop 1)
        pure (.branch condition yes no, ls)
      else if startsWith? "else" ls then do
        let (no, ls) ← bodyOf last left (ls.drop 1)
        let ls ← expect last "fi" ls
        pure (.branch condition yes no, ls)
      else do
        let ls ← expect last "fi" ls
        pure (.branch condition yes .nothing, ls)

/-- A loop with a condition, from behind its first word. -/
def repeated (last : Nat) : (left : Nat) → Bool → List Lexeme → Parse (Ahead Command)
  | 0, _, ls => unexpected last none ls
  | left + 1, expected, ls => do
      let (condition, ls) ← bodyOf last left ls
      let ls ← expect last "do" ls
      let (body, ls) ← bodyOf last left ls
      let ls ← expect last "done" ls
      let (redirects, ls) ← redirectsOf last [] ls
      pure (.group (.loop expected condition body) redirects, ls)

/-- The arms of a choice by patterns, past its last word. -/
def arms (last : Nat) : (left : Nat) → Word → List Lexeme → Parse (Ahead Command)
  | 0, _, ls => unexpected last none ls
  | left + 1, w, ls => do
      if startsWith? "esac" ls then pure (.nothing, ls.drop 1)
      else do
        let ls := if startsWith? "(" ls then ls.drop 1 else ls
        let (ps, ls) ← patterns last [] ls
        let (body, ls) ← listOf last left ls
        if startsWith? ";;" ls then do
          let (rest, ls) ← arms last left w (skipLineEnds (ls.drop 1))
          pure (.choose w ps body rest, ls)
        else do
          if !startsWith? "esac" ls then unexpected last (some ";;") ls
          else pure (.choose w ps body .nothing, ls.drop 1)

end

/-! ## Scripts -/

/-- What is run: the commands of each line, and the fault of the first line that has one. -/
structure Program where
  commands : List Command
  fault : Option SyntaxFault
  deriving Repr

/-- Commands up to the end of a line. -/
def lineOf (last : Nat) : (left : Nat) → List Lexeme → Parse (Ahead Command)
  | 0, ls => unexpected last none ls
  | left + 1, ls => do
      let (c, ls) ← sequel last (16 * ls.length + 16) ls
      match ls with
      | [] => pure (c, [])
      | ⟨.lineEnd, _⟩ :: ls => pure (c, ls)
      | ⟨.operator ";", _⟩ :: ls => further left c ls
      | ⟨.operator "&", _⟩ :: ls => further left (.background c) ls
      | ls => unexpected last none ls
where
  further (left : Nat) (c : Command) : List Lexeme → Parse (Ahead Command)
    | [] => .ok (c, [])
    | ⟨.lineEnd, _⟩ :: ls => .ok (c, ls)
    | ls => do
        let (d, ls) ← lineOf last left ls
        pure (.andThen c d, ls)

def linesOf (last : Nat) : (left : Nat) → List Lexeme → Program
  | 0, _ => ⟨[], none⟩
  | left + 1, ls =>
      match skipLineEnds ls with
      | [] => ⟨[], none⟩
      | ls =>
          match lineOf last (ls.length + 1) ls with
          | .error fault => ⟨[], some fault⟩
          | .ok (c, ls) =>
              let p := linesOf last left ls
              ⟨c :: p.commands, p.fault⟩

def programOf (script : String) : Program :=
  let ls := tokensOf script
  linesOf (script.toList.count '\n' + 1) (ls.length + 1) ls

end ShaderVariants.Script
