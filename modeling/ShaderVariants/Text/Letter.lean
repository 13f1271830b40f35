import ShaderVariants.Text.Table.Alphanumeric
import ShaderVariants.Text.Table.Case
import ShaderVariants.Text.Table.CaseMap
import ShaderVariants.Text.Table.Cased

/-!
Classes and case of characters over all of Unicode. ASCII is decided by rule and all else by the
tables. A small sharp s has two capitals in upper case, and a capital sigma at the end of a word
has the final form in lower case.
-/

namespace ShaderVariants.Text

def inRanges (ranges : List (Nat × Nat)) (n : Nat) : Bool :=
  ranges.any fun (first, last) => first ≤ n && n ≤ last

def inRun (first last step n : Nat) : Bool :=
  first ≤ n && n ≤ last && (n - first) % step == 0

def inRuns (runs : List (Nat × Nat × Nat)) (n : Nat) : Bool :=
  runs.any fun (first, last, step) => inRun first last step n

/-- Whether a character is a letter or a number. -/
def isAlphanumeric (c : Char) : Bool :=
  if c.toNat < 0x80 then c.isAlphanum else inRanges alphanumericRanges c.toNat

def isUppercase (c : Char) : Bool :=
  if c.toNat < 0x80 then c.isUpper else inRuns uppercaseRuns c.toNat

def isLowercase (c : Char) : Bool :=
  if c.toNat < 0x80 then c.isLower else inRuns lowercaseRuns c.toNat

def isCased (c : Char) : Bool :=
  if c.toNat < 0x80 then c.isAlpha else inRanges casedRanges c.toNat

def isCaseIgnorable (c : Char) : Bool :=
  if c.toNat < 0x80 then [0x27, 0x2E, 0x3A, 0x5E, 0x60].contains c.toNat
  else inRanges caseIgnorableRanges c.toNat

/-- The code point that the first run with `n` in it moves `n` to. -/
def shifted (shifts : List (Nat × Nat × Nat × Int)) (n : Nat) : Nat :=
  match shifts.find? fun (first, last, step, _) => inRun first last step n with
  | some (_, _, _, shift) => (n + shift).toNat
  | none => n

def upperChar (c : Char) : List Char :=
  if c.toNat < 0x80 then [c.toUpper]
  else
    match upperExpansions.lookup c.toNat with
    | some codes => codes.map Char.ofNat
    | none => [Char.ofNat (shifted upperShifts c.toNat)]

/-- Lower case without regard to the characters around; a dotted capital I keeps its dot as a
mark of its own. -/
def lowerChar (c : Char) : List Char :=
  if c.toNat < 0x80 then [c.toLower]
  else if c.toNat = 0x130 then ['i', Char.ofNat 0x307]
  else [Char.ofNat (shifted lowerShifts c.toNat)]

/-- Whether a cased character comes first once the case-ignorable ones are passed. -/
def meetsCased (s : List Char) : Bool :=
  (s.dropWhile isCaseIgnorable).head?.any isCased

def lowerAfter : (before : List Char) → List Char → List Char
  | _, [] => []
  | before, c :: rest =>
      let lowered :=
        if c.toNat = 0x3A3 then
          [Char.ofNat (if meetsCased before && !meetsCased rest then 0x3C2 else 0x3C3)]
        else lowerChar c
      lowered ++ lowerAfter (c :: before) rest

def lower (s : String) : String := String.ofList (lowerAfter [] s.toList)

def upper (s : List Char) : List Char := s.flatMap upperChar

end ShaderVariants.Text
