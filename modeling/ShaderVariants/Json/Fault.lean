import ShaderVariants.Json.Value
import ShaderVariants.Text.Quoted

/-!
Why a JSON text cannot be read, and where. A cause either breaks the grammar or says that a
well-formed part is not what its place calls for. While reading, a place is the number of bytes
still unread, and the finished fault names a line and the bytes before the place on that line.
-/

namespace ShaderVariants.Json

/-- What stands where something else is called for. -/
inductive Found where
  | null
  | boolean (b : Bool)
  | number (n : Number)
  | string (s : String)
  | sequence
  | map
  deriving DecidableEq, Repr

def Found.text : Found → String
  | .null => "null"
  | .boolean true => "boolean `true`"
  | .boolean false => "boolean `false`"
  | .number (.integer i) => s!"integer `{i}`"
  | .number (.binary x) => s!"floating point `{x.text numberStyle}`"
  | .string s => "string " ++ Text.quoted s
  | .sequence => "sequence"
  | .map => "map"

inductive Cause where
  | endInValue
  | endInList
  | endInObject
  | endInString
  | expectedColon
  | expectedListCommaOrEnd
  | expectedObjectCommaOrEnd
  | expectedWord
  | expectedValue
  | badEscape
  | badNumber
  | numberOutOfRange
  | controlCharacter
  | keyNotString
  | loneSurrogate
  | unfinishedSurrogatePair
  | trailingComma
  | trailingCharacters
  | tooDeep
  | wrongType (found : Found) (expected : String)
  | wrongValue (found : Found) (expected : String)
  | wrongLength (length : Nat) (expected : String)
  | missingField (name : String)
  | repeatedField (name : String)
  | unknownVariant (name : String) (known : List String)
  deriving DecidableEq, Repr

def Cause.text : Cause → String
  | .endInValue => "EOF while parsing a value"
  | .endInList => "EOF while parsing a list"
  | .endInObject => "EOF while parsing an object"
  | .endInString => "EOF while parsing a string"
  | .expectedColon => "expected `:`"
  | .expectedListCommaOrEnd => "expected `,` or `]`"
  | .expectedObjectCommaOrEnd => "expected `,` or `\x7d`"
  | .expectedWord => "expected ident"
  | .expectedValue => "expected value"
  | .badEscape => "invalid escape"
  | .badNumber => "invalid number"
  | .numberOutOfRange => "number out of range"
  | .controlCharacter => "control character (\\u0000-\\u001F) found while parsing a string"
  | .keyNotString => "key must be a string"
  | .loneSurrogate => "lone leading surrogate in hex escape"
  | .unfinishedSurrogatePair => "unexpected end of hex escape"
  | .trailingComma => "trailing comma"
  | .trailingCharacters => "trailing characters"
  | .tooDeep => "recursion limit exceeded"
  | .wrongType found expected => s!"invalid type: {found.text}, expected {expected}"
  | .wrongValue found expected => s!"invalid value: {found.text}, expected {expected}"
  | .wrongLength length expected => s!"invalid length {length}, expected {expected}"
  | .missingField name => s!"missing field `{name}`"
  | .repeatedField name => s!"duplicate field `{name}`"
  | .unknownVariant name known =>
      s!"unknown variant `{name}`, expected one of " ++
        String.intercalate ", " (known.map fun k => s!"`{k}`")

/-- A cause and the number of bytes that were unread when it showed. -/
structure Stop where
  cause : Cause
  left : Nat
  deriving DecidableEq, Repr

structure Fault where
  cause : Cause
  line : Nat
  column : Nat
  deriving DecidableEq, Repr

def Fault.message (f : Fault) : String :=
  s!"{f.cause.text} at line {f.line} column {f.column}"

def byteLength (s : List Char) : Nat := s.foldr (fun c size => c.utf8Size + size) 0

/-- The line, and the bytes on it, that come before the byte at the given offset. -/
def place : (text : List Char) → (offset line column : Nat) → Nat × Nat
  | [], offset, line, column => (line, column + offset)
  | c :: rest, offset, line, column =>
      if offset < c.utf8Size then (line, column + offset)
      else if c = '\n' then place rest (offset - 1) (line + 1) 0
      else place rest (offset - c.utf8Size) line (column + c.utf8Size)

def Stop.locate (stop : Stop) (text : List Char) : Fault :=
  let (line, column) := place text (byteLength text - stop.left) 1 0
  ⟨stop.cause, line, column⟩

end ShaderVariants.Json
