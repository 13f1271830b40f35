/-!
Integer expressions of scripts. Operators bind as in C, and an assignment stands at the start of an
expression, of one in brackets or of the middle of a choice. A name stands for the number that it
holds, or for zero. What does not count for the value, as behind a true first part of an `or`, is
not evaluated.
-/

namespace ShaderVariants.Script.Arithmetic

abbrev Variables := List (String × String)

/-- Why an expression has no value. -/
inductive Problem where
  /-- What should come next. -/
  | expecting (what : String)
  | divisionByZero
  /-- What a name holds is no number. -/
  | notNumber (text : String)
  deriving DecidableEq, Repr

/-! ## Tokens -/

inductive Token where
  | number (n : Nat)
  | name (s : String)
  | sign (s : String)
  /-- A character that no expression has. -/
  | foreign
  deriving DecidableEq, Repr

def digitIn (base : Nat) (c : Char) : Option Nat :=
  let value :=
    if c.isDigit then some (c.toNat - '0'.toNat)
    else if 'a' ≤ c ∧ c ≤ 'f' then some (c.toNat - 'a'.toNat + 10)
    else if 'A' ≤ c ∧ c ≤ 'F' then some (c.toNat - 'A'.toNat + 10)
    else none
  value.filter (· < base)

def isDigitIn (base : Nat) (c : Char) : Bool := (digitIn base c).isSome

def maxNumber : Nat := 0x7FFFFFFFFFFFFFFF

/-- The number of digits; a greater one than the greatest counts as that. -/
def numberIn (base : Nat) (digits : List Char) : Nat :=
  min maxNumber (digits.foldl (fun n c => n * base + (digitIn base c).getD 0) 0)

/-- A number from its first digit on, in decimal or in the base that its first digits tell, and
the text behind it. -/
def number : List Char → Nat × List Char
  | '0' :: x :: d :: s =>
      if (x = 'x' || x = 'X') && isDigitIn 16 d then inBase 16 (d :: s)
      else inBase 8 ('0' :: x :: d :: s)
  | '0' :: s => inBase 8 ('0' :: s)
  | s => inBase 10 s
where
  inBase (base : Nat) (s : List Char) : Nat × List Char :=
    let (digits, rest) := s.span (isDigitIn base)
    (numberIn base digits, rest)

/-- The signs, the longer ones before those that they start with. -/
def signs : List String := [
  "<<=", ">>=", "||", "&&", "==", "!=", "<=", ">=", "<<", ">>", "+=", "-=", "*=", "/=", "%=", "&=",
  "|=", "^=", "+", "-", "*", "/", "%", "<", ">", "=", "!", "~", "&", "|", "^", "(", ")", "?", ":"]

def isSpace (c : Char) : Bool := c == ' ' || c == '\t' || c == '\n'

def isInName (c : Char) : Bool := c.isAlphanum || c == '_'

/-- The tokens of a text, up to the first foreign character; `left` bounds their number. -/
def tokens : (left : Nat) → List Char → List Token
  | 0, _ => []
  | _, [] => []
  | left + 1, c :: s =>
      if isSpace c then tokens left s
      else if c.isDigit then
        let (n, rest) := number (c :: s)
        .number n :: tokens left rest
      else if isInName c then
        let (name, rest) := (c :: s).span isInName
        .name (String.ofList name) :: tokens left rest
      else
        match signs.find? fun sign => sign.toList.isPrefixOf (c :: s) with
        | some sign => .sign sign :: tokens left ((c :: s).drop sign.length)
        | none => [.foreign]

/-! ## Expressions -/

/-- What stands before an operand. -/
inductive Unary where
  | plus
  | minus
  | not
  | complement
  deriving DecidableEq, Repr

def Unary.ofSign? (sign : String) : Option Unary :=
  [("+", plus), ("-", minus), ("!", not), ("~", complement)].lookup sign

/-- What stands between operands, apart from `&&` and `||`. -/
inductive Binary where
  | bitOr
  | bitXor
  | bitAnd
  | equal
  | unequal
  | less
  | greater
  | atMost
  | atLeast
  | shiftLeft
  | shiftRight
  | plus
  | minus
  | times
  | divide
  | modulo
  deriving DecidableEq, Repr

inductive Connective where
  | or
  | and
  | both (op : Binary)
  deriving DecidableEq, Repr

/-- The signs between operands, each with how tightly it binds. -/
def Connective.signs : List (String × Nat × Connective) := [
  ("||", 1, or), ("&&", 2, and), ("|", 3, both .bitOr), ("^", 4, both .bitXor),
  ("&", 5, both .bitAnd), ("==", 6, both .equal), ("!=", 6, both .unequal), ("<", 7, both .less),
  (">", 7, both .greater), ("<=", 7, both .atMost), (">=", 7, both .atLeast),
  ("<<", 8, both .shiftLeft), (">>", 8, both .shiftRight), ("+", 9, both .plus),
  ("-", 9, both .minus), ("*", 10, both .times), ("/", 10, both .divide), ("%", 10, both .modulo)]

def Connective.ofSign? (sign : String) : Option (Nat × Connective) := signs.lookup sign

inductive Expr where
  | number (n : Nat)
  | name (s : String)
  | before (op : Unary) (a : Expr)
  | between (op : Connective) (a b : Expr)
  | choice (condition yes no : Expr)
  /-- Gives a name what an operation makes of its value and another; without one the other. -/
  | assign (name : String) (op : Option Binary) (value : Expr)
  deriving Repr

/-- The operations of the signs that assign. -/
def assignmentSigns : List (String × Option Binary) := [
  ("=", none), ("+=", some .plus), ("-=", some .minus), ("*=", some .times), ("/=", some .divide),
  ("%=", some .modulo), ("&=", some .bitAnd), ("|=", some .bitOr), ("^=", some .bitXor),
  ("<<=", some .shiftLeft), (">>=", some .shiftRight)]

/-- An expression and the tokens behind it. -/
abbrev Parsed := Except Problem (Expr × List Token)

mutual

/-- A whole expression, which may be an assignment. -/
def whole : (left : Nat) → List Token → Parsed
  | 0, _ => .error (.expecting "primary")
  | left + 1, ts =>
      match ts with
      | .name name :: .sign s :: rest =>
          match assignmentSigns.lookup s with
          | some op => do
              let (value, ts) ← whole left rest
              pure (.assign name op value, ts)
          | none => alternatives left ts
      | ts => alternatives left ts

def alternatives : (left : Nat) → List Token → Parsed
  | 0, _ => .error (.expecting "primary")
  | left + 1, ts => do
      let (condition, ts) ← chain left 1 ts
      match ts with
      | .sign "?" :: ts => do
          let (yes, ts) ← whole left ts
          match ts with
          | .sign ":" :: ts => do
              let (no, ts) ← alternatives left ts
              pure (.choice condition yes no, ts)
          | _ => .error (.expecting "':'")
      | ts => pure (condition, ts)

/-- Operands that are bound at least as tightly as `level`. -/
def chain : (left : Nat) → (level : Nat) → List Token → Parsed
  | 0, _, _ => .error (.expecting "primary")
  | left + 1, level, ts => do
      let (a, ts) ← operand left ts
      further left level a ts

def further : (left : Nat) → (level : Nat) → Expr → List Token → Parsed
  | 0, _, _, _ => .error (.expecting "primary")
  | left + 1, level, a, ts =>
      match ts with
      | .sign s :: rest =>
          match Connective.ofSign? s with
          | some (tightness, op) =>
              if tightness < level then .ok (a, ts)
              else do
                let (b, ts) ← chain left (tightness + 1) rest
                further left level (.between op a b) ts
          | none => .ok (a, ts)
      | ts => .ok (a, ts)

def operand : (left : Nat) → List Token → Parsed
  | 0, _ => .error (.expecting "primary")
  | left + 1, ts =>
      match ts with
      | .number n :: ts => .ok (.number n, ts)
      | .name name :: ts => .ok (.name name, ts)
      | .sign "(" :: ts => do
          let (a, ts) ← whole left ts
          match ts with
          | .sign ")" :: ts => pure (a, ts)
          | _ => .error (.expecting "')'")
      | .sign s :: ts =>
          match Unary.ofSign? s with
          | some op => do
              let (a, ts) ← operand left ts
              pure (.before op a, ts)
          | none => .error (.expecting "primary")
      | _ => .error (.expecting "primary")

end

def Expr.ofText (s : String) : Except Problem Expr := do
  let ts := tokens s.length s.toList
  let (e, rest) ← whole (8 * ts.length + 8) ts
  if rest.isEmpty then pure e else .error (.expecting "EOF")

/-! ## Values -/

def truth (b : Bool) : Int := if b then 1 else 0

/-- Numbers are kept within 64 bits. -/
def wrap (n : Int) : Int := n.bmod 0x10000000000000000

/-- The bits of a number, as a natural one. -/
def bits (n : Int) : Nat := (n % 0x10000000000000000).toNat

/-- The number that a text is, apart from blanks around it. -/
def numberOf? (text : String) : Option Int :=
  let s := (text.toList.dropWhile isSpace)
  let (sign, s) := match s with
    | '-' :: s => ((-1 : Int), s)
    | '+' :: s => (1, s)
    | s => (1, s)
  if s.head?.any Char.isDigit then
    let (n, rest) := number s
    if rest.all isSpace then some (sign * n) else none
  else if s.isEmpty then some 0
  else none

/-- The number that a name holds. -/
def valueOf (vars : Variables) (name : String) : Except Problem Int :=
  match vars.lookup name with
  | none => .ok 0
  | some text =>
      match numberOf? text with
      | some n => .ok n
      | none => .error (.notNumber text)

def assign (vars : Variables) (name value : String) : Variables :=
  (name, value) :: vars.filter (·.1 != name)

def Unary.apply (op : Unary) (a : Int) : Int :=
  match op with
  | plus => a
  | minus => wrap (-a)
  | not => truth (a == 0)
  | complement => -a - 1

/-- What an operation makes of its operands. A shift takes its width from the last six bits, and
division goes toward zero. -/
def Binary.apply (op : Binary) (a b : Int) : Except Problem Int :=
  match op with
  | bitOr => .ok (wrap (bits a ||| bits b : Nat))
  | bitXor => .ok (wrap (bits a ^^^ bits b : Nat))
  | bitAnd => .ok (wrap (bits a &&& bits b : Nat))
  | equal => .ok (truth (a == b))
  | unequal => .ok (truth (a != b))
  | less => .ok (truth (a < b))
  | greater => .ok (truth (a > b))
  | atMost => .ok (truth (a ≤ b))
  | atLeast => .ok (truth (a ≥ b))
  | shiftLeft => .ok (wrap (a * (1 <<< (bits b % 64) : Nat)))
  | shiftRight => .ok (a >>> (bits b % 64))
  | plus => .ok (wrap (a + b))
  | minus => .ok (wrap (a - b))
  | times => .ok (wrap (a * b))
  | divide => if b = 0 then .error .divisionByZero else .ok (wrap (a.tdiv b))
  | modulo => if b = 0 then .error .divisionByZero else .ok (a.tmod b)

/-- The value of an expression, and the variables after it. -/
def Expr.value (vars : Variables) : Expr → Except Problem (Int × Variables)
  | .number n => .ok (n, vars)
  | .name x => do pure (← valueOf vars x, vars)
  | .before op a => do
      let (n, vars) ← a.value vars
      pure (op.apply n, vars)
  | .between .or a b => do
      let (m, vars) ← a.value vars
      if m ≠ 0 then pure (1, vars)
      else do
        let (n, vars) ← b.value vars
        pure (truth (n != 0), vars)
  | .between .and a b => do
      let (m, vars) ← a.value vars
      if m = 0 then pure (0, vars)
      else do
        let (n, vars) ← b.value vars
        pure (truth (n != 0), vars)
  | .between (.both op) a b => do
      let (m, vars) ← a.value vars
      let (n, vars) ← b.value vars
      pure (← op.apply m n, vars)
  | .choice condition yes no => do
      let (n, vars) ← condition.value vars
      if n ≠ 0 then yes.value vars else no.value vars
  | .assign x none value => do
      let (n, vars) ← value.value vars
      pure (n, Arithmetic.assign vars x (toString n))
  | .assign x (some op) value => do
      let (n, vars) ← value.value vars
      let n ← op.apply (← valueOf vars x) n
      pure (n, Arithmetic.assign vars x (toString n))

def evaluate (vars : Variables) (s : String) : Except Problem (Int × Variables) := do
  (← Expr.ofText s).value vars

end ShaderVariants.Script.Arithmetic
