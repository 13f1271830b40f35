import ShaderVariants.Decimal.Shortest

/-!
JSON values and their compact text. Numbers keep integers of the 64-bit ranges exactly and hold
all others in binary floating point. The members of an object are kept in ascending order of
their keys, so two objects with the same members have the same text.
-/

namespace ShaderVariants.Json
open Decimal

inductive Number where
  | integer (i : Int)
  | binary (x : Binary64)
  deriving DecidableEq, Repr

inductive Value where
  | null
  | boolean (b : Bool)
  | number (n : Number)
  | string (s : String)
  | array (items : List Value)
  | object (members : List (String × Value))
  deriving Repr, Inhabited

/-- Binary numbers are written plainly from `0.00001` up to below `1e+16`. -/
def numberStyle : Binary64.Style := { plainFrom := -4, plainTo := 16 }

def Number.text : Number → String
  | .integer i => toString i
  | .binary x => x.text numberStyle

/-- Puts an entry into a list in ascending order of its keys, in place of one with the same
key. -/
def insertSorted (key : String) (a : α) : List (String × α) → List (String × α)
  | [] => [(key, a)]
  | (k, b) :: rest =>
      if key < k then (key, a) :: (k, b) :: rest
      else if key = k then (key, a) :: rest
      else (k, b) :: insertSorted key a rest

def hexDigit (n : Nat) : Char := (Nat.digitChar n)

/-- One character of a string as it stands between the quotes. -/
def escapeChar (c : Char) : String :=
  match c with
  | '"' => "\\\""
  | '\\' => "\\\\"
  | '\n' => "\\n"
  | '\r' => "\\r"
  | '\t' => "\\t"
  | '\x08' => "\\b"
  | '\x0c' => "\\f"
  | c =>
      if c.toNat < 0x20 then
        "\\u00" ++ String.ofList [hexDigit (c.toNat / 16), hexDigit (c.toNat % 16)]
      else c.toString

def quote (s : String) : String :=
  "\"" ++ String.join (s.toList.map escapeChar) ++ "\""

namespace Value

mutual

/-- The text of a value without blanks. -/
def text : Value → String
  | .null => "null"
  | .boolean true => "true"
  | .boolean false => "false"
  | .number n => n.text
  | .string s => quote s
  | .array items => "[" ++ itemsText items ++ "]"
  | .object members => "\x7b" ++ membersText members ++ "\x7d"

def itemsText : List Value → String
  | [] => ""
  | [v] => v.text
  | v :: rest => v.text ++ "," ++ itemsText rest

def membersText : List (String × Value) → String
  | [] => ""
  | [(k, v)] => quote k ++ ":" ++ v.text
  | (k, v) :: rest => quote k ++ ":" ++ v.text ++ "," ++ membersText rest

end

def ofNat (n : Nat) : Value := .number (.integer n)

/-- An object with the given members, the later of two with one key. -/
def ofMembers (members : List (String × Value)) : Value :=
  .object (members.foldl (fun acc (k, v) => insertSorted k v acc) [])

/-- The member with the given key. -/
def member? (key : String) : Value → Option Value
  | .object members => members.lookup key
  | _ => none

end Value
end ShaderVariants.Json
