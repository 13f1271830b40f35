import ShaderVariants.Script.Arithmetic

/-!
Escapes and formats of printed text. A format is used again as long as arguments are left; an
argument that is missing counts as empty or as zero. Escapes give bytes, so what is printed need
not be text.
-/

namespace ShaderVariants.Script.Format

abbrev Bytes := List UInt8

def bytesOf (s : String) : Bytes := s.toUTF8.toList

def octalValue (digits : List Char) : Nat :=
  digits.foldl (fun n c => n * 8 + (c.toNat - '0'.toNat)) 0

def isOctal (c : Char) : Bool := '0' ≤ c && c ≤ '7'

/-- At most `most` octal digits at the start, and what follows them. -/
def octalDigits (most : Nat) (s : List Char) : List Char × List Char :=
  let digits := (s.take most).takeWhile isOctal
  (digits, s.drop digits.length)

/-- The byte of an escape by a letter. -/
def letterEscape? (c : Char) : Option UInt8 :=
  match c with
  | 'a' => some 7
  | 'b' => some 8
  | 'f' => some 12
  | 'n' => some 10
  | 'r' => some 13
  | 't' => some 9
  | 'v' => some 11
  | '\\' => some 92
  | _ => none

/-- An escape in a format, from behind its backslash. -/
def formatEscape : List Char → Bytes × List Char
  | [] => ([92], [])
  | c :: s =>
      match letterEscape? c with
      | some b => ([b], s)
      | none =>
          if isOctal c then
            let (digits, rest) := octalDigits 3 (c :: s)
            ([UInt8.ofNat (octalValue digits)], rest)
          else (92 :: bytesOf c.toString, s)

/-- Text in which escapes are replaced, and whether an escape ends all output. Octal escapes
begin with a zero. -/
def escaped : (left : Nat) → List Char → Bytes × Bool
  | 0, _ => ([], false)
  | _, [] => ([], false)
  | _, '\\' :: 'c' :: _ => ([], true)
  | left + 1, '\\' :: '0' :: s =>
      let (digits, s) := octalDigits 3 s
      let (rest, stop) := escaped left s
      (UInt8.ofNat (octalValue digits) :: rest, stop)
  | left + 1, '\\' :: c :: s =>
      let here := match letterEscape? c with
        | some b => [b]
        | none => 92 :: bytesOf c.toString
      let (rest, stop) := escaped left s
      (here ++ rest, stop)
  | left + 1, c :: s =>
      let (rest, stop) := escaped left s
      (bytesOf c.toString ++ rest, stop)

def escapedText (s : String) : Bytes × Bool := escaped (s.length + 1) s.toList

/-! ## Conversions -/

structure Conversion where
  flags : List Char
  width : Nat
  precision : Option Nat
  letter : Char

def isFlag (c : Char) : Bool := ['-', '+', ' ', '0', '#'].contains c

def digitsNat (s : List Char) : Nat := s.foldl (fun n c => n * 10 + (c.toNat - '0'.toNat)) 0

/-- A conversion from behind its percent sign. -/
def conversion (s : List Char) : Option (Conversion × List Char) :=
  let flags := s.takeWhile isFlag
  let s := s.dropWhile isFlag
  let width := digitsNat (s.takeWhile Char.isDigit)
  let s := s.dropWhile Char.isDigit
  let (precision, s) := match s with
    | '.' :: s => (some (digitsNat (s.takeWhile Char.isDigit)), s.dropWhile Char.isDigit)
    | s => (none, s)
  match s with
  | c :: s => some (⟨flags, width, precision, c⟩, s)
  | [] => none

def blanks (n : Nat) : Bytes := List.replicate n 32

/-- Fills up a field on the side that the flags tell. -/
def Conversion.padded (c : Conversion) (text : Bytes) : Bytes :=
  let gap := c.width - text.length
  if c.flags.contains '-' then text ++ blanks gap else blanks gap ++ text

def Conversion.text (c : Conversion) (s : Bytes) : Bytes :=
  c.padded (match c.precision with
    | some p => s.take p
    | none => s)

/-- The digits of a number with the sign in front. -/
def Conversion.number (c : Conversion) (base : Nat) (n : Int) : Bytes :=
  let digits := Nat.toDigits base n.natAbs
  let digits := match c.precision with
    | some p => List.replicate (p - digits.length) '0' ++ digits
    | none => digits
  let sign :=
    if n < 0 then ['-']
    else if c.flags.contains '+' then ['+']
    else if c.flags.contains ' ' then [' ']
    else if c.flags.contains '#' && base == 8 then ['0']
    else if c.flags.contains '#' && base == 16 && n != 0 then ['0', 'x']
    else []
  let zeros :=
    if c.flags.contains '0' && !c.flags.contains '-' && c.precision.isNone then
      List.replicate (c.width - (sign.length + digits.length)) '0'
    else []
  c.padded (bytesOf (String.ofList (sign ++ zeros ++ digits)))

def upperCase (bytes : Bytes) : Bytes :=
  bytes.map fun b => if 97 ≤ b && b ≤ 122 then b - 32 else b

/-- The number that an argument starts with, and whether it is all of it. -/
def argumentNumber (s : String) : Int × Bool :=
  match s.toList with
  | [] => (0, true)
  | [c, d] =>
      if c = '"' || c.toNat = 39 then (d.toNat, true) else plain [c, d]
  | cs => plain cs
where
  plain (cs : List Char) : Int × Bool :=
    let (negative, cs) := match cs with
      | '-' :: cs => (true, cs)
      | '+' :: cs => (false, cs)
      | cs => (false, cs)
    let signed (n : Nat) : Int := if negative then -(n : Int) else n
    if cs.head?.any Char.isDigit then
      let (n, rest) := Arithmetic.number cs
      (signed n, rest.isEmpty)
    else (0, false)

/-- What printing has come to: the output, the complaints, the arguments that are left, and
whether it is over. -/
structure Printing where
  output : Bytes
  complaints : List String
  failed : Nat
  arguments : List String
  finished : Bool

namespace Printing

def put (p : Printing) (bytes : Bytes) : Printing := { p with output := p.output ++ bytes }

def complain (p : Printing) (words : String) (status : Nat) : Printing :=
  { p with complaints := p.complaints ++ [words], failed := status }

def convertNumber (p : Printing) (c : Conversion) (base : Nat) (signed : Bool) (s : String) :
    Printing :=
  let (n, whole) := argumentNumber s
  let n := if signed then n else (Arithmetic.bits n : Nat)
  let p := p.put (c.number base n)
  if whole then p
  else if s.toList.head?.any fun d => d.isDigit || d == '-' then
    p.complain s!"{s}: not completely converted" 1
  else p.complain s!"{s}: expected numeric value" 1

/-- One conversion, taking an argument if there is one. -/
def convert (p : Printing) (c : Conversion) : Printing :=
  let s := p.arguments.headD ""
  let p' := { p with arguments := p.arguments.drop 1 }
  match c.letter with
  | '%' => p.put (bytesOf "%")
  | 's' => p'.put (c.text (bytesOf s))
  | 'b' =>
      let (bytes, stop) := escapedText s
      { p'.put (c.text bytes) with finished := stop }
  | 'c' => p'.put (c.padded ((bytesOf s).take 1))
  | 'd' => p'.convertNumber c 10 true s
  | 'i' => p'.convertNumber c 10 true s
  | 'u' => p'.convertNumber c 10 false s
  | 'o' => p'.convertNumber c 8 false s
  | 'x' => p'.convertNumber c 16 false s
  | 'X' =>
      let q := Printing.convertNumber { p' with output := [] } c 16 false s
      { q with output := p'.output ++ upperCase q.output }
  | letter => { p.complain s!"%{letter}: invalid directive" 2 with finished := true }

/-- The format once from a place on. -/
def pass : (left : Nat) → Printing → List Char → Printing
  | 0, p, _ => p
  | _, p, [] => p
  | left + 1, p, '\\' :: s =>
      let (bytes, s) := formatEscape s
      pass left (p.put bytes) s
  | left + 1, p, '%' :: s =>
      match conversion s with
      | none => { p.complain "%: invalid directive" 2 with finished := true }
      | some (c, s) =>
          let p := p.convert c
          if p.finished then p else pass left p s
  | left + 1, p, c :: s => pass left (p.put (bytesOf c.toString)) s

/-- The format as often as there are arguments for it. -/
def passes (format : List Char) : (left : Nat) → Printing → Printing
  | 0, p => p
  | left + 1, p =>
      let q := pass (format.length + 1) p format
      if q.finished || q.arguments.isEmpty || q.arguments.length = p.arguments.length then q
      else passes format left q

end Printing

def print (format : String) (arguments : List String) : Printing :=
  Printing.passes format.toList (arguments.length + 1) ⟨[], [], 0, arguments, false⟩

end ShaderVariants.Script.Format
