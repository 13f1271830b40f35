/-!
Finite binary floating point with a 53-bit significand, held exactly: a sign and the
magnitude `significand * 2 ^ exponent`. A quotient of naturals is rounded to the nearest such
number, ties going to the even significand, and every operation is one exact quotient that is
then rounded.
-/

namespace ShaderVariants.Decimal

/-- A finite number. Significands at or above `2 ^ 52` are normal, and all others have the
least exponent. -/
structure Binary64 where
  negative : Bool
  significand : Nat
  exponent : Int
  deriving DecidableEq, Repr

namespace Binary64

/-- The least significand with 53 bits. -/
def leastNormal : Nat := 0x10000000000000

def leastExponent : Int := -1074
def greatestExponent : Int := 971

def zero (negative : Bool) : Binary64 := ⟨negative, 0, leastExponent⟩

def isZero (x : Binary64) : Bool := x.significand == 0

/-- The numerator and denominator of `2 ^ e`. -/
def powerOfTwo (e : Int) : Nat × Nat := (1 <<< e.toNat, 1 <<< (-e).toNat)

/-- The nearest natural to `num / den`, a tie going to the even one. -/
def roundQuotient (num den : Nat) : Nat :=
  let q := num / den
  let twice := 2 * (num % den)
  if twice < den then q
  else if den < twice then q + 1
  else if q % 2 = 0 then q else q + 1

/-- The exponent at which `num / den` has a significand of 53 bits, or the least exponent if
that one is smaller. -/
def exponentOf (num den : Nat) : Int :=
  let guess : Int := (num.log2 : Int) - (den.log2 : Int) - 52
  let (up, down) := powerOfTwo guess
  let fitted := if num * down < leastNormal * (den * up) then guess - 1 else guess
  max fitted leastExponent

/-- The number nearest to `num / den`, or nothing when that lies beyond the greatest one. -/
def ofRatio (negative : Bool) (num den : Nat) : Option Binary64 :=
  if num = 0 then some (zero negative)
  else
    let e := exponentOf num den
    let (up, down) := powerOfTwo e
    let m := roundQuotient (num * down) (den * up)
    let x : Binary64 :=
      if m = 2 * leastNormal then ⟨negative, leastNormal, e + 1⟩ else ⟨negative, m, e⟩
    if x.exponent ≤ greatestExponent then some x else none

def ofNat (n : Nat) : Option Binary64 := ofRatio false n 1

/-- The magnitude as a quotient of naturals. -/
def ratio (x : Binary64) : Nat × Nat :=
  let (up, down) := powerOfTwo x.exponent
  (x.significand * up, down)

def mul (x y : Binary64) : Option Binary64 :=
  let (a, b) := x.ratio
  let (c, d) := y.ratio
  ofRatio (x.negative != y.negative) (a * c) (b * d)

def div (x y : Binary64) : Option Binary64 :=
  let (a, b) := x.ratio
  let (c, d) := y.ratio
  ofRatio (x.negative != y.negative) (a * d) (b * c)

def neg (x : Binary64) : Binary64 := { x with negative := !x.negative }

end Binary64
end ShaderVariants.Decimal
