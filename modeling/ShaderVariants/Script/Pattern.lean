/-!
Patterns of scripts: an asterisk stands for any text, a question mark for any character, and a
list in brackets for one of its characters. Quoted characters stand for themselves.
-/

namespace ShaderVariants.Script

inductive PatternItem where
  | char (c : Char)
  | anyText
  | anyChar
  | oneOf (negated : Bool) (ranges : List (Char × Char))
  deriving DecidableEq, Repr

abbrev Pattern := List PatternItem

namespace Pattern

def quoted (s : String) : Pattern := s.toList.map .char

/-- The ranges of a list in brackets, up to its end; `first` says that none was read. -/
def ranges : (first : Bool) → List Char → Option (List (Char × Char) × List Char)
  | _, [] => none
  | first, ']' :: s =>
      if first then (ranges false s).map fun (rs, s) => ((']', ']') :: rs, s) else some ([], s)
  | _, a :: '-' :: ']' :: s => some ([(a, a), ('-', '-')], s)
  | _, a :: '-' :: b :: s => (ranges false s).map fun (rs, s) => ((a, b) :: rs, s)
  | _, a :: s => (ranges false s).map fun (rs, s) => ((a, a) :: rs, s)

/-- The pattern that text without quotes stands for; `left` bounds its items. -/
def unquoted : (left : Nat) → List Char → Pattern
  | 0, _ => []
  | _, [] => []
  | left + 1, '*' :: s => .anyText :: unquoted left s
  | left + 1, '?' :: s => .anyChar :: unquoted left s
  | left + 1, '[' :: s =>
      let (negated, inside) := match s with
        | '!' :: s => (true, s)
        | '^' :: s => (true, s)
        | s => (false, s)
      match ranges true inside with
      | some (rs, s) => .oneOf negated rs :: unquoted left s
      | none => .char '[' :: unquoted left s
  | left + 1, c :: s => .char c :: unquoted left s

def ofText (s : String) : Pattern := unquoted (s.length + 1) s.toList

/-- Whether a pattern stands for a text. -/
def accepts : (left : Nat) → Pattern → List Char → Bool
  | 0, _, _ => false
  | _, [], [] => true
  | _, [], _ :: _ => false
  | left + 1, .anyText :: p, s =>
      accepts left p s ||
        match s with
        | [] => false
        | _ :: s => accepts left (.anyText :: p) s
  | _, _ :: _, [] => false
  | left + 1, .char d :: p, c :: s => c == d && accepts left p s
  | left + 1, .anyChar :: p, _ :: s => accepts left p s
  | left + 1, .oneOf negated rs :: p, c :: s =>
      (rs.any (fun (a, b) => a ≤ c && c ≤ b) != negated) && accepts left p s

def isMatch (p : Pattern) (s : List Char) : Bool := accepts (p.length + s.length + 1) p s

/-- A text without the shortest or longest end that the pattern stands for. -/
def dropEnd (p : Pattern) (longest : Bool) (s : List Char) : List Char :=
  let cuts := List.range (s.length + 1)
  let cuts := if longest then cuts else cuts.reverse
  match cuts.find? fun k => p.isMatch (s.drop k) with
  | some k => s.take k
  | none => s

/-- A text without the shortest or longest start that the pattern stands for. -/
def dropStart (p : Pattern) (longest : Bool) (s : List Char) : List Char :=
  let cuts := List.range (s.length + 1)
  let cuts := if longest then cuts.reverse else cuts
  match cuts.find? fun k => p.isMatch (s.take k) with
  | some k => s.drop k
  | none => s

end Pattern
end ShaderVariants.Script
