/-!
Text from bytes that may not all be UTF-8. Bytes are taken one at a time; where a byte cannot
begin or go on a character, the bytes taken for it so far become one replacement character, and a
byte that cannot go on a character may still begin the next one.
-/

namespace ShaderVariants.Text

/-- A character that has begun: its bits so far, how many bytes are still missing, and the bounds
of the next one. -/
structure Begun where
  bits : Nat
  missing : Nat
  low : Nat
  high : Nat

def replacement : Char := '\uFFFD'

/-- The characters that a first byte completes, and the one that it begins. The bounds leave out
what has a shorter form, the surrogates, and what is past the last code point. -/
def begin (b : Nat) : List Char × Option Begun :=
  if b < 0x80 then ([Char.ofNat b], none)
  else if b < 0xC2 then ([replacement], none)
  else if b < 0xE0 then ([], some ⟨b - 0xC0, 1, 0x80, 0xBF⟩)
  else if b < 0xF0 then
    let low := if b = 0xE0 then 0xA0 else 0x80
    let high := if b = 0xED then 0x9F else 0xBF
    ([], some ⟨b - 0xE0, 2, low, high⟩)
  else if b < 0xF5 then
    let low := if b = 0xF0 then 0x90 else 0x80
    let high := if b = 0xF4 then 0x8F else 0xBF
    ([], some ⟨b - 0xF0, 3, low, high⟩)
  else ([replacement], none)

/-- The characters that the next byte of a text completes, and the one that has then begun. -/
def goOn (begun : Option Begun) (b : Nat) : List Char × Option Begun :=
  match begun with
  | none => begin b
  | some p =>
      if p.low ≤ b ∧ b ≤ p.high then
        let bits := p.bits * 64 + (b - 0x80)
        if p.missing = 1 then ([Char.ofNat bits], none)
        else ([], some ⟨bits, p.missing - 1, 0x80, 0xBF⟩)
      else
        let (chars, next) := begin b
        (replacement :: chars, next)

def decodeFrom : Option Begun → List UInt8 → List Char
  | none, [] => []
  | some _, [] => [replacement]
  | begun, b :: bytes =>
      let (chars, next) := goOn begun b.toNat
      chars ++ decodeFrom next bytes

/-- Bytes as text, with replacement characters for those that are none. -/
def decode (bytes : ByteArray) : String := String.ofList (decodeFrom none bytes.toList)

end ShaderVariants.Text
