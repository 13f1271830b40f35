import ShaderVariants.Fault

/-!
Keys of variants and the rules on them. A key is a set of defines: bit `i` of its mask stands for
define `i`, and the base key is the empty set. A rule speaks of the keys that share a bit with
it, and a key is admissible when every rule that speaks of it allows it.
-/

namespace ShaderVariants

/-- The bits of a mask that are set, in ascending order. -/
def setBits (mask : Nat) : List Nat := (List.range maxDefines).filter mask.testBit

structure Key where
  mask : Nat
  deriving DecidableEq, Repr

namespace Key

def base : Key := ⟨0⟩

def isBase (k : Key) : Bool := k.mask == 0

def isSet (k : Key) (bit : Nat) : Bool := bit < maxDefines && k.mask.testBit bit

/-- The defines in the key, in ascending order. -/
def active (k : Key) : List Nat := setBits k.mask

def hexText (n : Nat) : String := "0x" ++ String.ofList (Nat.toDigits 16 n)

def text (k : Key) : String := hexText k.mask

/-- Whether exactly one of the masks shares a bit with the key. -/
def onlyOneOf (k : Key) (masks : List Nat) : Bool :=
  masks.countP (fun mask => k.mask &&& mask != 0) == 1

end Key

inductive RuleKind where
  | anyBitSet
  | allBitsSet
  | onlyOneBitSet
  | maxOneBitSet
  deriving DecidableEq, Repr

def RuleKind.named : List (String × RuleKind) := [
  ("AnyBitSet", .anyBitSet),
  ("AllBitsSet", .allBitsSet),
  ("OnlyOneBitSet", .onlyOneBitSet),
  ("MaxOneBitSet", .maxOneBitSet)]

def RuleKind.name : RuleKind → String
  | .anyBitSet => "AnyBitSet"
  | .allBitsSet => "AllBitsSet"
  | .onlyOneBitSet => "OnlyOneBitSet"
  | .maxOneBitSet => "MaxOneBitSet"

/-- A rule on the bits of its mask. -/
structure Rule where
  kind : RuleKind
  mask : Nat
  deriving DecidableEq, Repr

namespace Rule

/-- The mask with the given bits, refusing the first bit that stands for no define. -/
def maskOfBits (defineCount : Nat) : (mask : Nat) → (bits : List Nat) → Except Fault Nat
  | mask, [] => .ok mask
  | mask, bit :: bits =>
      if bit < min defineCount maxDefines then maskOfBits defineCount (mask ||| 1 <<< bit) bits
      else .error (.ruleBitOutOfRange bit defineCount)

def ofBits (kind : RuleKind) (bits : List Nat) (defineCount : Nat) : Except Fault Rule := do
  let mask ← maskOfBits defineCount 0 bits
  pure ⟨kind, mask⟩

def appliesTo (r : Rule) (k : Key) : Bool := k.mask &&& r.mask != 0

def allows (r : Rule) (k : Key) : Bool :=
  let shared := k.mask &&& r.mask
  match r.kind with
  | .anyBitSet => shared != 0
  | .allBitsSet => shared == r.mask
  | .onlyOneBitSet => (setBits shared).length == 1
  | .maxOneBitSet => (setBits shared).length ≤ 1

/-- Whether every rule that speaks of a key allows it. -/
def admits (rules : List Rule) (k : Key) : Bool :=
  rules.all fun r => !r.appliesTo k || r.allows k

end Rule

/-- The admissible keys over `defineCount` defines in ascending order, without the base key. -/
def admissibleKeys (defineCount : Nat) (rules : List Rule) : List Key :=
  (((List.range (1 <<< defineCount)).drop 1).map Key.mk).filter (Rule.admits rules)

/-- The admissible keys, if a key has bits for all the defines. -/
def keysFor (shader stage : String) (defineCount : Nat) (rules : List Rule) :
    Except Fault (List Key) :=
  if maxDefines < defineCount then .error (.tooManyDefines shader stage defineCount)
  else .ok (admissibleKeys defineCount rules)

end ShaderVariants
