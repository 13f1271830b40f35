import ShaderVariants.Decimal.Binary64

/-!
The shortest decimal that reads back as a given binary number, and of the shortest ones the
nearest to it. A decimal grid `10 ^ k` is tried at its two points around the number, from one
digit upwards, in exact arithmetic.
-/

namespace ShaderVariants.Decimal

/-- The decimal `digits * 10 ^ exponent`. -/
structure Numeral where
  digits : Nat
  exponent : Int
  deriving DecidableEq, Repr

namespace Binary64

/-- The reals that round to a positive number, in units of `2 ^ (exponent - 2)`: the ends and
whether they belong to the interval. -/
structure Interval where
  low : Nat
  centre : Nat
  high : Nat
  closed : Bool
  exponent : Int

def interval (x : Binary64) : Interval :=
  let below := if x.significand = leastNormal ∧ x.exponent ≠ leastExponent then 1 else 2
  { low := 4 * x.significand - below
    centre := 4 * x.significand
    high := 4 * x.significand + 2
    closed := x.significand % 2 = 0
    exponent := x.exponent - 2 }

/-- The numerator and denominator of `10 ^ e`. -/
def powerOfTen (e : Int) : Nat × Nat := (Nat.pow 10 e.toNat, Nat.pow 10 (-e).toNat)

/-- Whether `d * 10 ^ k` lies in the interval. -/
def Interval.holds (i : Interval) (k : Int) (d : Nat) : Bool :=
  let (tu, td) := powerOfTen k
  let (bu, bd) := powerOfTwo i.exponent
  let point := d * tu * bd
  let scale := bu * td
  if i.closed then i.low * scale ≤ point && point ≤ i.high * scale
  else i.low * scale < point && point < i.high * scale

/-- The point of the grid `10 ^ k` in the interval that is nearest to its centre; of two that
are equally near, the one with the even digit. -/
def Interval.nearest (i : Interval) (k : Int) : Option Nat :=
  let (tu, td) := powerOfTen k
  let (bu, bd) := powerOfTwo i.exponent
  let num := i.centre * bu * td
  let den := bd * tu
  let d := num / den
  let first := roundQuotient num den
  let second := if first = d then d + 1 else d
  if i.holds k first then some first
  else if i.holds k second then some second
  else none

/-- The power of ten of the leading digit of `num / den`, or one more. -/
def leadingPower (num den : Nat) : Int :=
  let length (n : Nat) : Int := (Nat.toDigits 10 n).length
  length num - length den

/-- The first grid from `10 ^ k` downwards, of at most `left`, with a point in the interval. -/
def Interval.search (i : Interval) : (left : Nat) → (k : Int) → Numeral
  | 0, k => ⟨0, k⟩
  | left + 1, k =>
      match i.nearest k with
      | some d => ⟨d, k⟩
      | none => i.search left (k - 1)

/-- Drops trailing zeros of the digits, at most as many as `left`. -/
def Numeral.strip : (left : Nat) → (d : Numeral) → Numeral
  | 0, d => d
  | left + 1, d =>
      if d.digits ≠ 0 ∧ d.digits % 10 = 0 then
        Numeral.strip left ⟨d.digits / 10, d.exponent + 1⟩
      else d

/-- The shortest decimal of a number that is not zero. Seventeen digits always suffice, and
the first grid tried lies above the number. -/
def shortest (x : Binary64) : Numeral :=
  let (num, den) := x.ratio
  Numeral.strip 20 (x.interval.search 20 (leadingPower num den + 1))

/-- How a number is laid out: plainly while the point falls within or near the digits, and
with an exponent otherwise. -/
structure Style where
  /-- The least position of the point, counted from the first digit, that is written plainly. -/
  plainFrom : Int
  /-- The greatest such position. -/
  plainTo : Int

def zeros (n : Int) : String := String.ofList (List.replicate n.toNat '0')

/-- Digits with the point after the first `position` of them. -/
def plain (digits : List Char) (position : Int) : String :=
  let length : Int := digits.length
  if position ≤ 0 then "0." ++ zeros (-position) ++ String.ofList digits
  else if length ≤ position then String.ofList digits ++ zeros (position - length) ++ ".0"
  else String.ofList (digits.take position.toNat) ++ "." ++
    String.ofList (digits.drop position.toNat)

def scientific (digits : List Char) (power : Int) : String :=
  let sign := if power < 0 then "-" else "+"
  let lead := String.ofList (digits.take 1)
  let tail := digits.drop 1
  let fraction := if tail.isEmpty then "" else "." ++ String.ofList tail
  lead ++ fraction ++ "e" ++ sign ++ toString power.natAbs

/-- The text of a number: the shortest digits, `0.0` for zero, and a minus sign for negative
numbers and negative zero. -/
def text (style : Style) (x : Binary64) : String :=
  let sign := if x.negative then "-" else ""
  if x.isZero then sign ++ "0.0"
  else
    let d := x.shortest
    let digits := Nat.toDigits 10 d.digits
    let position : Int := digits.length + d.exponent
    if style.plainFrom ≤ position ∧ position ≤ style.plainTo then sign ++ plain digits position
    else sign ++ scientific digits (position - 1)

end Binary64
end ShaderVariants.Decimal
