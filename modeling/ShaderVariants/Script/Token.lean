import ShaderVariants.Script.Word

/-!
The tokens of a script: words, operators, redirections and line ends, each with its line. A quote
that is left open is a token of its own, so that the lines before it can still be run.
-/

namespace ShaderVariants.Script

inductive Token where
  | word (w : Word)
  | operator (s : String)
  /-- A redirection of a stream, or of the one that its sign stands for. -/
  | redirect (stream : Option Nat) (sign : String)
  | lineEnd
  | unterminated
  deriving DecidableEq, Repr

structure Lexeme where
  token : Token
  line : Nat
  deriving DecidableEq, Repr

def lineEnds (before after : List Char) : Nat :=
  (before.take (before.length - after.length)).count '\n'

/-- The longest operator or redirection sign that a text starts with. -/
def scanOperator : List Char → Option (Token × List Char)
  | '&' :: '&' :: s => some (.operator "&&", s)
  | '|' :: '|' :: s => some (.operator "||", s)
  | ';' :: ';' :: s => some (.operator ";;", s)
  | '&' :: s => some (.operator "&", s)
  | '|' :: s => some (.operator "|", s)
  | ';' :: s => some (.operator ";", s)
  | '(' :: s => some (.operator "(", s)
  | ')' :: s => some (.operator ")", s)
  | '>' :: '>' :: s => some (.redirect none ">>", s)
  | '>' :: '&' :: s => some (.redirect none ">&", s)
  | '>' :: '|' :: s => some (.redirect none ">", s)
  | '<' :: '&' :: s => some (.redirect none "<&", s)
  | '>' :: s => some (.redirect none ">", s)
  | '<' :: s => some (.redirect none "<", s)
  | _ => none

/-- A redirection with the number of its stream in front. -/
def scanNumbered (s : List Char) : Option (Token × List Char) :=
  match s with
  | d :: rest =>
      if d.isDigit then
        match scanOperator rest with
        | some (.redirect _ sign, s) => some (.redirect (some (d.toNat - 48)) sign, s)
        | _ => none
      else none
  | [] => none

/-- The tokens of a text from a line on; `left` bounds their number. -/
def tokens : (left : Nat) → (line : Nat) → List Char → List Lexeme
  | 0, _, _ => []
  | _, _, [] => []
  | left + 1, line, '\n' :: s => ⟨.lineEnd, line⟩ :: tokens left (line + 1) s
  | left + 1, line, '\\' :: '\n' :: s => tokens left (line + 1) s
  | left + 1, line, c :: s =>
      if c = ' ' || c = '\t' then tokens left line s
      else if c = '#' then tokens left line (s.dropWhile (· != '\n'))
      else
        match (scanNumbered (c :: s)).or (scanOperator (c :: s)) with
        | some (token, s) => ⟨token, line⟩ :: tokens left line s
        | none =>
            match scanWord (s.length + 2) [] (c :: s) with
            | some (w, rest) => ⟨.word w, line⟩ :: tokens left (line + lineEnds (c :: s) rest) rest
            | none => [⟨.unterminated, line + s.count '\n'⟩]

def tokensOf (script : String) : List Lexeme :=
  tokens (script.length + 1) 1 script.toList

end ShaderVariants.Script
