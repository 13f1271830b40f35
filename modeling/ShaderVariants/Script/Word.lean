/-!
Words of the script language: literal text with its quotes taken off, and the places where a
parameter, a sum, or the output of commands is put in. Text that is quoted is never cut into
several arguments.
-/

namespace ShaderVariants.Script

inductive Piece where
  | text (s : String) (quoted : Bool)
  | parameter (expression : String) (quoted : Bool)
  | arithmetic (expression : String) (quoted : Bool)
  /-- The output of a script. -/
  | output (script : String) (quoted : Bool)
  deriving DecidableEq, Repr

abbrev Word := List Piece

/-- Puts a character behind a word. -/
def Word.push (w : Word) (c : Char) (quoted : Bool) : Word :=
  match w.getLast? with
  | some (.text s q) =>
      if q = quoted then w.dropLast ++ [.text (s.push c) q]
      else w ++ [.text c.toString quoted]
  | _ => w ++ [.text c.toString quoted]

/-- The text of a word that is one piece of text without quotes. -/
def Word.plain? : Word → Option String
  | [.text s false] => some s
  | _ => none

/-- The quotes that are open while a bracket is looked for. -/
inductive Quoting where
  | none
  | single
  | double
  deriving DecidableEq, Repr

/-- The text up to the bracket that closes an open one, and what follows that bracket. Brackets
between quotes do not count; `inside` is the text so far, its last character first. -/
def untilClosed (opening closing : Char) :
    (quoting : Quoting) → (depth : Nat) → (inside : List Char) → List Char →
      Option (List Char × List Char)
  | _, _, _, [] => none
  | .none, depth, inside, '\\' :: c :: s =>
      untilClosed opening closing .none depth (c :: '\\' :: inside) s
  | .double, depth, inside, '\\' :: c :: s =>
      untilClosed opening closing .double depth (c :: '\\' :: inside) s
  | .none, depth, inside, c :: s =>
      if c = closing then
        if depth = 0 then some (inside.reverse, s)
        else untilClosed opening closing .none (depth - 1) (c :: inside) s
      else if c = opening then untilClosed opening closing .none (depth + 1) (c :: inside) s
      else
        let quoting := if c.toNat = 39 then .single else if c = '"' then .double else .none
        untilClosed opening closing quoting depth (c :: inside) s
  | .single, depth, inside, c :: s =>
      let quoting := if c.toNat = 39 then .none else .single
      untilClosed opening closing quoting depth (c :: inside) s
  | .double, depth, inside, c :: s =>
      let quoting := if c = '"' then .none else .double
      untilClosed opening closing quoting depth (c :: inside) s

def isNameStart (c : Char) : Bool := c.isAlpha || c == '_'
def isNameChar (c : Char) : Bool := c.isAlphanum || c == '_'

/-- Whether a character after a dollar sign names a parameter by itself. -/
def isSpecial (c : Char) : Bool := ['@', '*', '#', '?', '$', '!', '-'].contains c || c.isDigit

/-- What a dollar sign stands for, from behind it. -/
def dollar (quoted : Bool) : List Char → Option (Piece × List Char)
  | '(' :: '(' :: s => do
      let (inside, s) ← untilClosed '(' ')' .none 0 [] s
      match s with
      | ')' :: s => some (.arithmetic (String.ofList inside) quoted, s)
      | _ => none
  | '(' :: s => do
      let (inside, s) ← untilClosed '(' ')' .none 0 [] s
      some (.output (String.ofList inside) quoted, s)
  | '\x7b' :: s => do
      let (inside, s) ← untilClosed '\x7b' '\x7d' .none 0 [] s
      some (.parameter (String.ofList inside) quoted, s)
  | c :: s =>
      if isSpecial c then some (.parameter c.toString quoted, s)
      else if isNameStart c then
        some (.parameter (String.ofList ((c :: s).takeWhile isNameChar)) quoted,
          (c :: s).dropWhile isNameChar)
      else some (.text "$" quoted, c :: s)
  | [] => some (.text "$" quoted, [])

/-- A script between back quotes, from behind the first one. -/
def backQuoted : (inside : List Char) → List Char → Option (List Char × List Char)
  | _, [] => none
  | inside, '\\' :: c :: s =>
      if c.toNat = 96 || c == '\\' || c == '$' then backQuoted (c :: inside) s
      else backQuoted (c :: '\\' :: inside) s
  | inside, c :: s => if c.toNat = 96 then some (inside.reverse, s) else backQuoted (c :: inside) s

/-- Text between single quotes, from behind the first one. -/
def singleQuoted (w : Word) : List Char → Option (Word × List Char)
  | [] => none
  | c :: s => if c.toNat = 39 then some (w, s) else singleQuoted (w.push c true) s

/-- What stands between double quotes, from behind the first one; `left` bounds its pieces. -/
def doubleQuoted : (left : Nat) → Word → List Char → Option (Word × List Char)
  | 0, _, _ => none
  | _, _, [] => none
  | left + 1, w, '\\' :: c :: s =>
      if c = '\n' then doubleQuoted left w s
      else if c = '$' || c.toNat = 96 || c = '"' || c = '\\' then
        doubleQuoted left (w.push c true) s
      else doubleQuoted left ((w.push '\\' true).push c true) s
  | left + 1, w, c :: s =>
      if c = '"' then some (w, s)
      else if c = '$' then do
        let (piece, s) ← dollar true s
        doubleQuoted left (w ++ [piece]) s
      else if c.toNat = 96 then do
        let (script, s) ← backQuoted [] s
        doubleQuoted left (w ++ [.output (String.ofList script) true]) s
      else doubleQuoted left (w.push c true) s

/-- Whether a character ends a word. -/
def endsWord (c : Char) : Bool :=
  [' ', '\t', '\n', ';', '&', '|', '<', '>', '(', ')'].contains c

/-- A word up to the first character that ends it; nothing if a quote is left open. -/
def scanWord : (left : Nat) → Word → List Char → Option (Word × List Char)
  | 0, _, _ => none
  | _, w, [] => some (w, [])
  | left + 1, w, '\\' :: c :: s =>
      if c = '\n' then scanWord left w s else scanWord left (w.push c true) s
  | left + 1, w, c :: s =>
      if endsWord c then some (w, c :: s)
      else if c.toNat = 39 then do
        let (w, s) ← singleQuoted (w ++ [.text "" true]) s
        scanWord left w s
      else if c = '"' then do
        let (inside, s) ← doubleQuoted (s.length + 1) [] s
        scanWord left (w ++ if inside.isEmpty then [.text "" true] else inside) s
      else if c = '$' then do
        let (piece, s) ← dollar false s
        scanWord left (w ++ [piece]) s
      else if c.toNat = 96 then do
        let (script, s) ← backQuoted [] s
        scanWord left (w ++ [.output (String.ofList script) false]) s
      else scanWord left (w.push c false) s

/-- The whole of a text as one word, with blanks and operators as they are. -/
def wordOfText (s : String) : Word :=
  let escaped := s.toList.flatMap fun c => if endsWord c then ['\\', c] else [c]
  match scanWord (escaped.length + 1) [] escaped with
  | some (w, _) => w
  | none => [.text s true]

end ShaderVariants.Script
