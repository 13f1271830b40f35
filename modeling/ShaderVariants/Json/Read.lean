import ShaderVariants.Json.Skip

/-!
Readers of typed data from JSON text in one pass. A reader knows how deep it may still nest and
stops at the first part that breaks the grammar or is not of its type, whichever comes first in
the text. A record may be written as an object, in any order of its fields and with unknown ones
passed over, or as a list of its fields in order.
-/

namespace ShaderVariants.Json

/-- Reads from where the text goes on; `depth` is one more than the brackets that may open. -/
abbrev Reader (α : Type) := (depth : Nat) → List Char → Except Stop (α × List Char)

/-- How deep a document may nest, counted with the value inside the innermost bracket. -/
def maxDepth : Nat := 128

def Reader.map (f : α → β) (r : Reader α) : Reader β := fun depth s =>
  match r depth s with
  | .ok (a, s) => .ok (f a, s)
  | .error stop => .error stop

/-- What stands at the start of the text, of a kind that is not called for. -/
def mismatch (expected : String) : List Char → Except Stop α
  | 'n' :: s => scanWord ['u', 'l', 'l'] s >>= stopAt (.wrongType .null expected)
  | 't' :: s => scanWord ['r', 'u', 'e'] s >>= stopAt (.wrongType (.boolean true) expected)
  | 'f' :: s => scanWord ['a', 'l', 's', 'e'] s >>= stopAt (.wrongType (.boolean false) expected)
  | '-' :: s => scanNumber false s >>= fun (n, s) => stopAt (.wrongType (.number n) expected) s
  | '"' :: s => scanString s >>= fun (t, s) => stopAt (.wrongType (.string t) expected) s
  | '[' :: s => stopAt (.wrongType .sequence expected) ('[' :: s)
  | '\x7b' :: s => stopAt (.wrongType .map expected) ('\x7b' :: s)
  | s =>
      if s.head?.any Char.isDigit then
        scanNumber true s >>= fun (n, s) => stopAt (.wrongType (.number n) expected) s
      else stopBehind .expectedValue s

def text : Reader String := fun _ s =>
  match skipBlanks s with
  | [] => stopBehind .endInValue []
  | '"' :: s => scanString s
  | s => mismatch "a string" s

/-- A number that is a word of 32 bits. -/
def asWord32 (n : Number) (s : List Char) : Except Stop (Nat × List Char) :=
  match n with
  | .integer i =>
      if 0 ≤ i ∧ i ≤ 0xFFFFFFFF then .ok (i.toNat, s)
      else stopAt (.wrongValue (.number n) "u32") s
  | .binary _ => stopAt (.wrongType (.number n) "u32") s

def word32 : Reader Nat := fun _ s =>
  match skipBlanks s with
  | [] => stopBehind .endInValue []
  | '-' :: s => scanNumber false s >>= fun (n, s) => asWord32 n s
  | c :: s =>
      if c.isDigit then scanNumber true (c :: s) >>= fun (n, s) => asWord32 n s
      else mismatch "u32" (c :: s)

/-- Null or a value. -/
def nullable (r : Reader α) : Reader (Option α) := fun depth s =>
  match skipBlanks s with
  | 'n' :: s => (scanWord ['u', 'l', 'l'] s).map (none, ·)
  | s => r.map some depth s

/-! ## Lists -/

/-- Passes the comma before an item that is not the first one, and blanks. The answer is nothing
at the closing bracket, which is left unread. -/
def nextItem (first : Bool) (s : List Char) : Except Stop (Option (List Char)) :=
  match skipBlanks s with
  | [] => stopBehind .endInList []
  | ']' :: _ => .ok none
  | ',' :: s =>
      if first then .ok (some (',' :: s))
      else
        match skipBlanks s with
        | [] => stopBehind .endInValue []
        | ']' :: s => stopBehind .trailingComma (']' :: s)
        | s => .ok (some s)
  | s => if first then .ok (some s) else stopBehind .expectedListCommaOrEnd s

/-- Items up to the closing bracket and past it; `left` bounds their number, and those read
before are in `before`, the last one first. -/
def items (item : Reader α) (depth : Nat) :
    (left : Nat) → (before : List α) → List Char → Except Stop (List α × List Char)
  | 0, _, s => stopAt .endInList s
  | left + 1, before, s =>
      match nextItem before.isEmpty s with
      | .error stop => .error stop
      | .ok none => .ok (before.reverse, (skipBlanks s).drop 1)
      | .ok (some s) =>
          match item depth s with
          | .error stop => .error stop
          | .ok (a, s) => items item depth left (a :: before) s

def list (item : Reader α) : Reader (List α) := fun depth s =>
  match skipBlanks s with
  | [] => stopBehind .endInValue []
  | '[' :: s =>
      if depth ≤ 1 then stopBehind .tooDeep ('[' :: s)
      else items item (depth - 1) (s.length + 1) [] s
  | s => mismatch "a sequence" s

/-! ## Objects -/

/-- The next key, past its closing quote. The answer is nothing at the closing brace, which is
left unread. -/
def nextKey (first : Bool) (s : List Char) : Except Stop (Option (String × List Char)) :=
  match skipBlanks s with
  | [] => stopBehind .endInObject []
  | '\x7d' :: _ => .ok none
  | '"' :: s =>
      if first then (scanString s).map some
      else stopBehind .expectedObjectCommaOrEnd ('"' :: s)
  | ',' :: s =>
      if first then stopBehind .keyNotString (',' :: s)
      else
        match skipBlanks s with
        | [] => stopBehind .endInValue []
        | '"' :: s => (scanString s).map some
        | '\x7d' :: s => stopBehind .trailingComma ('\x7d' :: s)
        | s => stopBehind .keyNotString s
  | s => stopBehind (if first then .keyNotString else .expectedObjectCommaOrEnd) s

def colon (s : List Char) : Except Stop (List Char) :=
  match skipBlanks s with
  | [] => stopBehind .endInObject []
  | ':' :: s => .ok s
  | s => stopBehind .expectedColon s

/-- Members up to the closing brace and past it, in ascending order of their keys; the last of
those with one key counts. -/
def members (value : Reader α) (depth : Nat) :
    (left : Nat) → (first : Bool) → (before : List (String × α)) → List Char →
      Except Stop (List (String × α) × List Char)
  | 0, _, _, s => stopAt .endInObject s
  | left + 1, first, before, s =>
      match nextKey first s with
      | .error stop => .error stop
      | .ok none => .ok (before, (skipBlanks s).drop 1)
      | .ok (some (key, s)) =>
          match colon s >>= value depth with
          | .error stop => .error stop
          | .ok (a, s) => members value depth left false (insertSorted key a before) s

def keyed (value : Reader α) : Reader (List (String × α)) := fun depth s =>
  match skipBlanks s with
  | [] => stopBehind .endInValue []
  | '\x7b' :: s =>
      if depth ≤ 1 then stopBehind .tooDeep ('\x7b' :: s)
      else members value (depth - 1) (s.length + 1) true [] s
  | s => mismatch "a map" s

/-! ## Any value -/

/-- Any value. The depth bounds the recursion, since every bracket takes one off it. -/
def anyValue : Reader Value
  | 0, s => stopBehind .tooDeep s
  | depth + 1, s =>
      match skipBlanks s with
      | [] => stopBehind .endInValue []
      | 'n' :: s => (scanWord ['u', 'l', 'l'] s).map (.null, ·)
      | 't' :: s => (scanWord ['r', 'u', 'e'] s).map (.boolean true, ·)
      | 'f' :: s => (scanWord ['a', 'l', 's', 'e'] s).map (.boolean false, ·)
      | '-' :: s => (scanNumber false s).map fun (n, s) => (.number n, s)
      | '"' :: s => (scanString s).map fun (t, s) => (.string t, s)
      | '[' :: s =>
          if depth = 0 then stopBehind .tooDeep ('[' :: s)
          else
            (items (fun _ => anyValue depth) depth (s.length + 1) [] s).map
              fun (vs, s) => (.array vs, s)
      | '\x7b' :: s =>
          if depth = 0 then stopBehind .tooDeep ('\x7b' :: s)
          else
            (members (fun _ => anyValue depth) depth (s.length + 1) true [] s).map
              fun (ms, s) => (.object ms, s)
      | c :: s =>
          if c.isDigit then (scanNumber true (c :: s)).map fun (n, s) => (.number n, s)
          else stopBehind .expectedValue (c :: s)

/-! ## Records -/

/-- A field of a record: its key, whether it must be given, and how its value changes a record
that lacks it. -/
structure Field (α : Type) where
  name : String
  required : Bool
  read : Reader (α → α)

def required (name : String) (r : Reader β) (set : β → α → α) : Field α :=
  { name, required := true, read := r.map set }

def optional (name : String) (r : Reader β) (set : β → α → α) : Field α :=
  { name, required := false, read := r.map set }

/-- What a record is called in messages, the record that lacks every field, and its fields in
order. -/
structure Record (α : Type) where
  name : String
  blank : α
  fields : List (Field α)

def Record.expected (r : Record α) : String := s!"struct {r.name}"

def Record.expectedLength (r : Record α) : String :=
  let n := r.fields.length
  s!"{r.expected} with {n} element" ++ (if n = 1 then "" else "s")

/-- Stops where an object or list with the given closing bracket is left: past the bracket if
it comes next. -/
def stopLeaving (closing : Char) (cause : Cause) (s : List Char) : Except Stop α :=
  match skipBlanks s with
  | [] => stopAt cause []
  | c :: rest => stopAt cause (if c = closing then rest else c :: rest)

/-- The fields of a record up to the closing brace and past it. `given` holds the keys of the
fields read before. -/
def recordMembers (r : Record α) (depth : Nat) :
    (left : Nat) → (first : Bool) → (given : List String) → α → List Char →
      Except Stop (α × List Char)
  | 0, _, _, _, s => stopAt .endInObject s
  | left + 1, first, given, a, s =>
      match nextKey first s with
      | .error stop => .error stop
      | .ok none =>
          match r.fields.find? fun f => f.required && !given.contains f.name with
          | some f => stopLeaving '\x7d' (.missingField f.name) s
          | none => .ok (a, (skipBlanks s).drop 1)
      | .ok (some (key, s)) =>
          match r.fields.find? (·.name == key) with
          | none =>
              match colon s >>= skipValue with
              | .error stop => .error stop
              | .ok s => recordMembers r depth left false given a s
          | some f =>
              if given.contains key then stopLeaving '\x7d' (.repeatedField key) s
              else
                match colon s >>= f.read depth with
                | .error stop => .error stop
                | .ok (set, s) => recordMembers r depth left false (key :: given) (set a) s

/-- What must follow the last field of a record that is written as a list. -/
def listEnd (s : List Char) : Except Stop (List Char) :=
  match skipBlanks s with
  | [] => stopBehind .endInList []
  | ']' :: s => .ok s
  | ',' :: s =>
      match skipBlanks s with
      | ']' :: s => stopBehind .trailingComma (']' :: s)
      | s => stopBehind .trailingCharacters s
  | s => stopBehind .trailingCharacters s

/-- The fields of a record in order, from the one with the given index on. Items are only left
out at the end, so no item has been read before the first field. -/
def recordItems (r : Record α) (depth : Nat) :
    (fields : List (Field α)) → (index : Nat) → α → List Char → Except Stop (α × List Char)
  | [], _, a, s => (listEnd s).map (a, ·)
  | f :: fields, index, a, s =>
      match nextItem (index == 0) s with
      | .error stop => .error stop
      | .ok none =>
          if f.required then stopLeaving ']' (.wrongLength index r.expectedLength) s
          else recordItems r depth fields (index + 1) a s
      | .ok (some s) =>
          match f.read depth s with
          | .error stop => .error stop
          | .ok (set, s) => recordItems r depth fields (index + 1) (set a) s

def record (r : Record α) : Reader α := fun depth s =>
  match skipBlanks s with
  | [] => stopBehind .endInValue []
  | '[' :: s =>
      if depth ≤ 1 then stopBehind .tooDeep ('[' :: s)
      else recordItems r (depth - 1) r.fields 0 r.blank s
  | '\x7b' :: s =>
      if depth ≤ 1 then stopBehind .tooDeep ('\x7b' :: s)
      else recordMembers r (depth - 1) (s.length + 1) true [] r.blank s
  | s => mismatch r.expected s

/-! ## Choices -/

/-- The variant with the given name. -/
def variant (known : List (String × α)) (name : String) (s : List Char) :
    Except Stop (α × List Char) :=
  match known.lookup name with
  | some a => .ok (a, s)
  | none => stopAt (.unknownVariant name (known.map (·.1))) s

/-- Passes the null that stands for a variant without content. -/
def unit (s : List Char) : Except Stop (List Char) :=
  match skipBlanks s with
  | [] => stopBehind .endInValue []
  | 'n' :: s => scanWord ['u', 'l', 'l'] s
  | s => mismatch "unit" s

/-- One of several names: a string, or an object with the name as its only key and null as its
value. -/
def choice (known : List (String × α)) : Reader α := fun depth s =>
  match skipBlanks s with
  | [] => stopBehind .endInValue []
  | '"' :: s => scanString s >>= fun (name, s) => variant known name s
  | '\x7b' :: s =>
      if depth ≤ 1 then stopBehind .tooDeep ('\x7b' :: s)
      else do
        let (name, s) ← match skipBlanks s with
          | [] => stopBehind .endInValue []
          | '"' :: s => scanString s
          | s => mismatch "variant identifier" s
        let (a, s) ← variant known name s
        let s ← colon s
        let s ← unit s
        match skipBlanks s with
        | [] => stopAt .endInObject []
        | '\x7d' :: s => pure (a, s)
        | s => stopAt .expectedValue s
  | s => stopBehind .expectedValue s

/-! ## Documents -/

/-- Reads a whole text: nothing but blanks may follow. -/
def read (r : Reader α) (document : String) : Except Fault α :=
  let chars := document.toList
  let result := do
    let (a, s) ← r maxDepth chars
    match skipBlanks s with
    | [] => pure a
    | s => stopBehind .trailingCharacters s
  match result with
  | .ok a => .ok a
  | .error stop => .error (stop.locate chars)

end ShaderVariants.Json
