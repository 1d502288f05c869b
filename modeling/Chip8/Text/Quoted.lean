import Chip8.Text.Hex
import Chip8.Text.Visible

/-! # Quoted text

Text between double quotes. Double quotes and backslashes get a backslash in
front, four control characters have a letter of their own, and any other
character that is not visible is written as its code point. -/

namespace Chip8.Text

/-- A character named by its code point. -/
def escapeCodePoint (char : Char) : String :=
  "\\u\x7b" ++ hex 1 char.toNat ++ "\x7d"

def escapeChar (char : Char) : String :=
  match char with
  | '\x00' => "\\0"
  | '\t' => "\\t"
  | '\n' => "\\n"
  | '\r' => "\\r"
  | '"' => "\\\""
  | '\\' => "\\\\"
  | _ => if isVisible char then String.singleton char else escapeCodePoint char

def quoted (text : String) : String :=
  "\"" ++ String.join (text.toList.map escapeChar) ++ "\""

end Chip8.Text
