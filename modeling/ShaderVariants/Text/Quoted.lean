import ShaderVariants.Text.Letter
import ShaderVariants.Text.Table.Unprintable

/-!
A text between quotes, for messages. Quotes and backslashes are escaped, and so is every
character that cannot be seen by itself, by the number of its code point in braces.
-/

namespace ShaderVariants.Text

def isUnprintable (c : Char) : Bool :=
  if c.toNat < 0x80 then c.toNat < 0x20 || c.toNat == 0x7F
  else inRanges unprintableRanges c.toNat

def quotedChar (c : Char) : String :=
  match c with
  | '\x00' => "\\0"
  | '\t' => "\\t"
  | '\r' => "\\r"
  | '\n' => "\\n"
  | '\\' => "\\\\"
  | '"' => "\\\""
  | c =>
      if isUnprintable c then "\\u\x7b" ++ String.ofList (Nat.toDigits 16 c.toNat) ++ "\x7d"
      else c.toString

def quoted (s : String) : String :=
  "\"" ++ String.join (s.toList.map quotedChar) ++ "\""

end ShaderVariants.Text
