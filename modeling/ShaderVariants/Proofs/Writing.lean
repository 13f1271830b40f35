import Mathlib.Data.List.Forall2
import Mathlib.Data.List.Nodup
import ShaderVariants.Json.Value

/-!
The texts that write a value as JSON. A writing is a relation, since much is left open to the
author: the blanks between tokens, the escapes of a string, the order of the members of an
object, and the members that nobody reads. The text of a value begins and ends with a token.
-/

namespace ShaderVariants.Json

/-- Which texts write which values. -/
abbrev Writing (α : Type) := α → List Char → Prop

def blanks : List Char := [' ', '\n', '\t', '\r']

def Blank (t : List Char) : Prop := ∀ c ∈ t, c ∈ blanks

theorem Blank.nil : Blank [] := List.forall_mem_nil _

/-! ## Strings -/

def HexDigit (v : Nat) (c : Char) : Prop :=
  v < 16 ∧ (c = v.digitChar ∨ c = v.digitChar.toUpper)

def Hex4 (n : Nat) (ds : List Char) : Prop :=
  ∃ p q r s, List.Forall₂ HexDigit [p, q, r, s] ds ∧ n = ((p * 16 + q) * 16 + r) * 16 + s

/-- The letters that may follow a backslash, and the characters they stand for there. -/
def letterEscapes : List (Char × Char) := [
  ('"', '"'), ('\\', '\\'), ('/', '/'), ('b', '\x08'), ('f', '\x0c'), ('n', '\n'), ('r', '\r'),
  ('t', '\t')]

/-- The first of the two units in which UTF-16 holds a character of more than 16 bits. -/
def highHalf (c : Char) : Nat := 0xD800 + (c.toNat - 0x10000) / 0x400

def lowHalf (c : Char) : Nat := 0xDC00 + (c.toNat - 0x10000) % 0x400

/-- The ways to write a character of a string. -/
inductive Piece : Char → List Char → Prop where
  | plain (visible : 0x20 ≤ c.toNat) (noQuote : c ≠ '"') (noEscape : c ≠ '\\') : Piece c [c]
  | letter (known : (e, c) ∈ letterEscapes) : Piece c ['\\', e]
  | code (unit : Hex4 c.toNat ds) : Piece c ('\\' :: 'u' :: ds)
  | pair (wide : 0x10000 ≤ c.toNat) (high : Hex4 (highHalf c) ds) (low : Hex4 (lowHalf c) es) :
      Piece c ('\\' :: 'u' :: ds ++ '\\' :: 'u' :: es)

def Writing.string : Writing String := fun s t =>
  ∃ pieces, List.Forall₂ Piece s.toList pieces ∧ t = '"' :: pieces.flatten ++ ['"']

/-! ## Other values without parts -/

def Writing.word32 : Writing Nat := fun n t => n ≤ 0xFFFFFFFF ∧ t = (toString n).toList

def Writing.named (name : α → String) : Writing α := fun a => string (name a)

def booleanText : Bool → List Char
  | true => "true".toList
  | false => "false".toList

def Writing.orNull (w : Writing α) : Writing (Option α)
  | none, t => t = "null".toList
  | some a, t => w a t

/-- The integers that fit in 64 bits with or without a sign. -/
def Fits64 (i : Int) : Prop := -0x8000000000000000 ≤ i ∧ i ≤ 0xFFFFFFFFFFFFFFFF

/-- Strings, booleans, and integers of the 64-bit ranges. -/
inductive Writing.Literal : Value → List Char → Prop where
  | string (written : Writing.string s t) : Literal (.string s) t
  | boolean : Literal (.boolean b) (booleanText b)
  | integer (fits : Fits64 i) : Literal (.number (.integer i)) (toString i).toList

/-! ## Lists and objects -/

/-- What stands in front of a part of a list or object: blanks, and a comma among them unless the
part is the first one. -/
inductive Gap : (first : Bool) → List Char → Prop where
  | first (blank : Blank t) : Gap true t
  | next (before : Blank t) (after : Blank u) : Gap false (t ++ ',' :: u)

/-- The parts of a list or object from behind its opening bracket, or from behind a part, up to
the closing bracket. -/
inductive Parts (w : Writing α) (closing : Char) :
    (first : Bool) → List α → List Char → Prop where
  | close (blank : Blank t) : Parts w closing first [] (t ++ [closing])
  | part (gap : Gap first g) (written : w a p) (more : Parts w closing false as t) :
      Parts w closing first (a :: as) (g ++ p ++ t)

def Writing.list (w : Writing α) : Writing (List α) := fun as t =>
  ∃ u, Parts w ']' true as u ∧ t = '[' :: u

def Writing.member (w : Writing α) : Writing (String × α) := fun m t =>
  ∃ key b c value, string m.1 key ∧ Blank b ∧ Blank c ∧ w m.2 value ∧
    t = key ++ b ++ ':' :: c ++ value

def Writing.members (w : Writing α) : Writing (List (String × α)) := fun ms t =>
  ∃ u, Parts w.member '\x7d' true ms u ∧ t = '\x7b' :: u

/-- A map is held in ascending order of its keys and written in any order. -/
def Writing.map (w : Writing α) : Writing (List (String × α)) := fun entries t =>
  entries.Pairwise (·.1 < ·.1) ∧ ∃ order, order.Perm entries ∧ w.members order t

/-! ## Any value -/

def Digits (t : List Char) : Prop := t ≠ [] ∧ ∀ c ∈ t, c.isDigit

def IsWhole (t : List Char) : Prop := t = ['0'] ∨ Digits t ∧ t.head? ≠ some '0'

def IsFraction (t : List Char) : Prop := t = [] ∨ ∃ ds, Digits ds ∧ t = '.' :: ds

def IsExponent (t : List Char) : Prop :=
  t = [] ∨ ∃ e ∈ ['e', 'E'], ∃ sign ∈ [[], ['+'], ['-']], ∃ ds, Digits ds ∧ t = e :: sign ++ ds

def IsNumber (t : List Char) : Prop :=
  ∃ sign ∈ [[], ['-']], ∃ whole fraction exponent,
    IsWhole whole ∧ IsFraction fraction ∧ IsExponent exponent ∧
      t = sign ++ (whole ++ (fraction ++ exponent))

/-- One character or escape of a string, whether or not it stands for a character: half of a
surrogate pair may be missing. -/
inductive IsPiece : List Char → Prop where
  | plain (visible : 0x20 ≤ c.toNat) (noQuote : c ≠ '"') (noEscape : c ≠ '\\') : IsPiece [c]
  | letter (known : (e, c) ∈ letterEscapes) : IsPiece ['\\', e]
  | code (unit : Hex4 n ds) : IsPiece ('\\' :: 'u' :: ds)

def IsString (t : List Char) : Prop :=
  ∃ pieces : List (List Char), (∀ p ∈ pieces, IsPiece p) ∧ t = '"' :: pieces.flatten ++ ['"']

/-- What a text may be: a value, or what follows the opening bracket of a list or object or, when
not `first`, one of its parts. -/
inductive Phrase where
  | value
  | items (first : Bool)
  | members (first : Bool)

inductive WellFormed : Phrase → List Char → Prop where
  | null : WellFormed .value "null".toList
  | boolean : WellFormed .value (booleanText b)
  | number (number : IsNumber t) : WellFormed .value t
  | string (string : IsString t) : WellFormed .value t
  | list (items : WellFormed (.items true) t) : WellFormed .value ('[' :: t)
  | object (members : WellFormed (.members true) t) : WellFormed .value ('\x7b' :: t)
  | listEnd (blank : Blank t) : WellFormed (.items first) (t ++ [']'])
  | item (gap : Gap first g) (value : WellFormed .value v) (more : WellFormed (.items false) t) :
      WellFormed (.items first) (g ++ v ++ t)
  | objectEnd (blank : Blank t) : WellFormed (.members first) (t ++ ['\x7d'])
  | member (gap : Gap first g) (key : IsString k) (before : Blank b) (after : Blank c)
      (value : WellFormed .value v) (more : WellFormed (.members false) t) :
      WellFormed (.members first) (g ++ (k ++ b ++ ':' :: c ++ v) ++ t)

/-! ## Records -/

/-- A field of a record as its object shows it: the key, the content with its writing, and the
content that a record has whose object lacks the key. -/
structure Slot (α : Type) where
  key : String
  Content : Type
  get : α → Content
  writing : Writing Content
  default : Option Content

@[simp]
def Slot.always (key : String) (get : α → β) (writing : Writing β) : Slot α :=
  ⟨key, β, get, writing, none⟩

/-- A field that need not be written when it has its default. -/
@[simp]
def Slot.omittable (key : String) (get : α → β) (default : β) (writing : Writing β) : Slot α :=
  ⟨key, β, get, writing, some default⟩

theorem eq_of_key {slots : List (Slot α)} (distinct : (slots.map (·.key)).Nodup) (a : slot ∈ slots)
    (b : other ∈ slots) (same : slot.key = other.key) : slot = other :=
  List.inj_on_of_nodup_map distinct a b same

/-- What the members of an object, keys with the texts of their values, say about a record. -/
structure Tells (slots : List (Slot α)) (a : α) (ms : List (String × List Char)) : Prop where
  known : ∀ m ∈ ms, ∀ slot ∈ slots, m.1 = slot.key → slot.writing (slot.get a) m.2
  unknown : ∀ m ∈ ms, (∀ slot ∈ slots, m.1 ≠ slot.key) → WellFormed .value m.2
  once : ∀ slot ∈ slots, (ms.map (·.1)).count slot.key ≤ 1
  omitted : ∀ slot ∈ slots, slot.key ∉ ms.map (·.1) → slot.default = some (slot.get a)

def Writing.object (slots : List (Slot α)) : Writing α := fun a t =>
  ∃ ms, Tells slots a ms ∧ members Eq ms t

/-- A text that holds one value and blanks around it. -/
def Writing.document (w : Writing α) : Writing α := fun a t =>
  ∃ b u c, Blank b ∧ w a u ∧ Blank c ∧ t = b ++ u ++ c

theorem document_bare {w : Writing α} (written : w a t) : w.document a t :=
  ⟨[], t, [], Blank.nil, written, Blank.nil, by simp⟩

theorem exists_left {R : α → β → Prop} (all : List.Forall₂ R as bs) (inside : b ∈ bs) :
    ∃ a ∈ as, R a b := by
  induction all with
  | nil => contradiction
  | cons related _ ih =>
      obtain rfl | inside := List.mem_cons.mp inside
      · exact ⟨_, List.mem_cons_self, related⟩
      · obtain ⟨a, inside, related⟩ := ih inside
        exact ⟨a, List.mem_cons_of_mem _ inside, related⟩

end ShaderVariants.Json
