import ShaderVariants.Json.Fault

/-!
The tokens of JSON: blanks, words, strings and numbers. Every scan takes the characters that are
still unread and gives what it read with those that remain, or the cause that stops it and how
many bytes were unread then. A byte that is looked at but not taken counts as read when it is to
blame.
-/

namespace ShaderVariants.Json
open Decimal

abbrev Scan (α : Type) := Except Stop (α × List Char)

/-- Stops before the next byte. -/
def stopAt (cause : Cause) (s : List Char) : Except Stop α :=
  .error ⟨cause, byteLength s⟩

/-- Stops behind the next byte, if there is one. -/
def stopBehind (cause : Cause) (s : List Char) : Except Stop α :=
  .error ⟨cause, byteLength s - 1⟩

def isBlank (c : Char) : Bool := c == ' ' || c == '\n' || c == '\t' || c == '\r'

def skipBlanks (s : List Char) : List Char := s.dropWhile isBlank

/-- Passes the rest of a word whose first letter has been passed. -/
def scanWord : (word : List Char) → List Char → Except Stop (List Char)
  | [], s => .ok s
  | _ :: _, [] => stopAt .endInValue []
  | w :: word, c :: s => if c = w then scanWord word s else stopBehind .expectedWord (c :: s)

/-! ## Strings -/

def hexValue (c : Char) : Option Nat :=
  if '0' ≤ c ∧ c ≤ '9' then some (c.toNat - '0'.toNat)
  else if 'a' ≤ c ∧ c ≤ 'f' then some (c.toNat - 'a'.toNat + 10)
  else if 'A' ≤ c ∧ c ≤ 'F' then some (c.toNat - 'A'.toNat + 10)
  else none

def hexValue4 (a b c d : Char) : Option Nat :=
  match hexValue a, hexValue b, hexValue c, hexValue d with
  | some a, some b, some c, some d => some (((a * 16 + b) * 16 + c) * 16 + d)
  | _, _, _, _ => none

/-- The four hexadecimal digits that start the text. Four bytes are taken whatever they are. -/
def scanHex4 : List Char → Scan Nat
  | a :: b :: c :: d :: s =>
      match hexValue4 a b c d with
      | some n => .ok (n, s)
      | none => .error ⟨.badEscape, byteLength (a :: b :: c :: d :: s) - 4⟩
  | s =>
      if byteLength s < 4 then .error ⟨.endInString, 0⟩
      else .error ⟨.badEscape, byteLength s - 4⟩

def isHighSurrogate (n : Nat) : Bool := 0xD800 ≤ n && n ≤ 0xDBFF
def isLowSurrogate (n : Nat) : Bool := 0xDC00 ≤ n && n ≤ 0xDFFF

/-- The second half of a surrogate pair whose first half is `high`. -/
def scanLowSurrogate (high : Nat) : List Char → Except Stop (Char × List Char)
  | [] => stopAt .endInString []
  | '\\' :: [] => stopAt .endInString []
  | '\\' :: 'u' :: s => do
      let (low, s) ← scanHex4 s
      if isLowSurrogate low then
        pure (Char.ofNat ((high - 0xD800) * 0x400 + (low - 0xDC00) + 0x10000), s)
      else stopAt .loneSurrogate s
  | '\\' :: s => stopBehind .unfinishedSurrogatePair s
  | s => stopBehind .unfinishedSurrogatePair s

def simpleEscape (c : Char) : Option Char :=
  match c with
  | '"' => some '"'
  | '\\' => some '\\'
  | '/' => some '/'
  | 'b' => some '\x08'
  | 'f' => some '\x0c'
  | 'n' => some '\n'
  | 'r' => some '\r'
  | 't' => some '\t'
  | _ => none

/-- The character that an escape stands for, from behind its backslash. -/
def scanEscape : List Char → Except Stop (Char × List Char)
  | [] => stopAt .endInString []
  | 'u' :: s => do
      let (n, s) ← scanHex4 s
      if isLowSurrogate n then stopAt .loneSurrogate s
      else if isHighSurrogate n then scanLowSurrogate n s
      else pure (Char.ofNat n, s)
  | c :: s =>
      match simpleEscape c with
      | some e => .ok (e, s)
      | none => stopBehind .badEscape (c :: s)

/-- The characters of a string up to its closing quote, from behind the opening one; `left`
bounds their number, and those read before are in `before`, the last one first. -/
def scanChars : (left : Nat) → (before : List Char) → List Char → Scan (List Char)
  | _, _, [] => stopAt .endInString []
  | _, before, '"' :: s => .ok (before.reverse, s)
  | 0, _, s => stopAt .endInString s
  | left + 1, before, '\\' :: s =>
      match scanEscape s with
      | .ok (c, s) => scanChars left (c :: before) s
      | .error stop => .error stop
  | left + 1, before, c :: s =>
      if c.toNat < 0x20 then stopBehind .controlCharacter (c :: s)
      else scanChars left (c :: before) s

/-- A string from behind its opening quote. -/
def scanString (s : List Char) : Except Stop (String × List Char) := do
  let (chars, s) ← scanChars s.length [] s
  pure (String.ofList chars, s)

/-- Passes an escape of a string that nobody reads: lone surrogates are let through. -/
def skipEscape : List Char → Except Stop (List Char)
  | [] => stopAt .endInString []
  | 'u' :: s => (scanHex4 s).map (·.2)
  | c :: s => if (simpleEscape c).isSome then .ok s else stopBehind .badEscape (c :: s)

/-- Passes a string that nobody reads, from behind its opening quote. -/
def skipChars : (left : Nat) → List Char → Except Stop (List Char)
  | _, [] => stopAt .endInString []
  | _, '"' :: s => .ok s
  | 0, s => stopAt .endInString s
  | left + 1, '\\' :: s =>
      match skipEscape s with
      | .ok s => skipChars left s
      | .error stop => .error stop
  | left + 1, c :: s =>
      if c.toNat < 0x20 then stopAt .controlCharacter (c :: s) else skipChars left s

/-! ## Numbers -/

def digitValue (c : Char) : Nat := c.toNat - '0'.toNat

def digits (s : List Char) : List Char := s.takeWhile Char.isDigit
def afterDigits (s : List Char) : List Char := s.dropWhile Char.isDigit

def maxWord : Nat := 0xFFFFFFFFFFFFFFFF

/-- Appends digits to a significand for as long as it stays within 64 bits; the second part of
the answer counts those that were appended. -/
def appendDigits : (significand : Nat) → (taken : Nat) → List Char → Nat × Nat
  | significand, taken, [] => (significand, taken)
  | significand, taken, c :: rest =>
      let next := significand * 10 + digitValue c
      if next ≤ maxWord then appendDigits next (taken + 1) rest else (significand, taken)

def tenTo (k : Nat) : Option Binary64 := Binary64.ofNat (Nat.pow 10 k)

/-- The greatest power of ten that is a finite number is `10 ^ greatestPower`. -/
def greatestPower : Nat := 308

/-- Divides by the greatest power of ten as often as told, or until nothing is left. -/
def scaleDown : (steps : Nat) → Binary64 → Option Binary64
  | 0, x => some x
  | steps + 1, x =>
      if x.isZero then some x
      else
        match tenTo greatestPower >>= x.div with
        | some y => scaleDown steps y
        | none => none

/-- Scales by a power of ten, rounding after each of the steps of at most `greatestPower`;
nothing when the number gets too great. -/
def scale (x : Binary64) (e : Int) : Option Binary64 :=
  if e < 0 then
    let steps := ((-e).toNat - 1) / greatestPower
    match scaleDown steps x with
    | some y => tenTo ((-e).toNat - greatestPower * steps) >>= y.div
    | none => none
  else if e.toNat ≤ greatestPower then tenTo e.toNat >>= x.mul
  else if x.isZero then some x
  else none

/-- The number `significand * 10 ^ e` with a sign, from where the text goes on. -/
def binaryNumber (positive : Bool) (significand : Nat) (e : Int) (s : List Char) :
    Scan Number :=
  match Binary64.ofNat significand >>= (scale · e) with
  | some x => .ok (.binary (if positive then x else x.neg), s)
  | none => stopAt .numberOutOfRange s

def maxExponent : Nat := 0x7FFFFFFF

/-- The digits of an exponent as a number, or the text behind the first digit that makes it
too great. -/
def exponentDigits : (e : Nat) → List Char → Except (List Char) (Nat × List Char)
  | e, [] => .ok (e, [])
  | e, c :: s =>
      if c.isDigit then
        let next := e * 10 + digitValue c
        if next ≤ maxExponent then exponentDigits next s else .error s
      else .ok (e, c :: s)

def clampExponent (e : Int) : Int := max (-0x80000000) (min e 0x7FFFFFFF)

/-- An exponent from behind its letter, and the number it completes. -/
def scanExponent (positive : Bool) (significand : Nat) (start : Int) (s : List Char) :
    Scan Number :=
  let (up, s) := match s with
    | '+' :: s => (true, s)
    | '-' :: s => (false, s)
    | s => (true, s)
  match s with
  | [] => stopAt .endInValue []
  | c :: rest =>
      if c.isDigit then
        match exponentDigits (digitValue c) rest with
        | .ok (e, s) =>
            binaryNumber positive significand
              (clampExponent (if up then start + e else start - e)) s
        | .error s =>
            if significand ≠ 0 ∧ up then stopAt .numberOutOfRange s
            else .ok (.binary (Binary64.zero !positive), afterDigits s)
      else stopBehind .badNumber (c :: rest)

/-- What follows the digits of a number that is held in floating point. -/
def scanScaled (positive : Bool) (significand : Nat) (e : Int) : List Char → Scan Number
  | 'e' :: s => scanExponent positive significand e s
  | 'E' :: s => scanExponent positive significand e s
  | s => binaryNumber positive significand e s

/-- A fraction from behind its point. Digits beyond 64 bits of significand are passed over. -/
def scanFraction (positive : Bool) (significand : Nat) (e : Int) (s : List Char) :
    Scan Number :=
  match digits s with
  | [] => if s.isEmpty then stopBehind .endInValue s else stopBehind .badNumber s
  | ds =>
      let (significand, taken) := appendDigits significand 0 ds
      scanScaled positive significand (e - taken) (afterDigits s)

/-- The number of an integer without point and exponent: exact within the 64-bit ranges, and
negative zero in floating point. -/
def integerNumber (positive : Bool) (significand : Nat) (s : List Char) : Scan Number :=
  if positive then .ok (.integer significand, s)
  else if significand = 0 ∨ 0x8000000000000000 < significand then binaryNumber false significand 0 s
  else .ok (.integer (-significand), s)

/-- A number from its first digit on. -/
def scanNumber (positive : Bool) (s : List Char) : Scan Number :=
  match s with
  | [] => stopAt .endInValue []
  | '0' :: d :: rest =>
      if d.isDigit then stopBehind .badNumber (d :: rest)
      else scanTail 0 (d :: rest)
  | ['0'] => scanTail 0 []
  | c :: rest =>
      if c.isDigit then
        let ds := digits (c :: rest)
        let (significand, taken) := appendDigits 0 0 ds
        let s := afterDigits rest
        let dropped := ds.length - taken
        if dropped = 0 then scanTail significand s
        else
          match s with
          | '.' :: s => scanFraction positive significand dropped s
          | s => scanScaled positive significand dropped s
      else stopBehind .badNumber (c :: rest)
where
  scanTail (significand : Nat) : List Char → Scan Number
    | '.' :: s => scanFraction positive significand 0 s
    | 'e' :: s => scanExponent positive significand 0 s
    | 'E' :: s => scanExponent positive significand 0 s
    | s => integerNumber positive significand s

/-- Passes an exponent that nobody reads, from behind its letter. -/
def skipExponent (s : List Char) : Except Stop (List Char) :=
  let s := match s with
    | '+' :: s => s
    | '-' :: s => s
    | s => s
  match s with
  | c :: rest => if c.isDigit then .ok (afterDigits rest) else stopBehind .badNumber (c :: rest)
  | [] => stopAt .badNumber []

def skipScaled : List Char → Except Stop (List Char)
  | 'e' :: s => skipExponent s
  | 'E' :: s => skipExponent s
  | s => .ok s

/-- Passes a number that nobody reads, from its first digit on. -/
def skipNumber (s : List Char) : Except Stop (List Char) :=
  match s with
  | [] => stopAt .badNumber []
  | '0' :: d :: rest =>
      if d.isDigit then stopBehind .badNumber (d :: rest) else skipTail (d :: rest)
  | c :: rest =>
      if c.isDigit then skipTail (afterDigits rest) else stopBehind .badNumber (c :: rest)
where
  skipTail : List Char → Except Stop (List Char)
    | '.' :: s =>
        match digits s with
        | [] => stopBehind .badNumber s
        | _ => skipScaled (afterDigits s)
    | s => skipScaled s

end ShaderVariants.Json
