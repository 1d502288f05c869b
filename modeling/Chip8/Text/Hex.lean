/-! # Hexadecimal text

Numbers are shown in lower-case hexadecimal digits, padded with zeros to a
least number of digits and never cut, with or without the marker `0x`. -/

namespace Chip8.Text

/-- The hexadecimal digits of a number, at least `width` of them. -/
def hexDigits (width value : Nat) : List Char :=
  (Nat.toDigits 16 value).leftpad width '0'

def hex (width value : Nat) : String :=
  String.ofList (hexDigits width value)

/-- A number marked as hexadecimal. The marker does not count as a digit. -/
def hexLiteral (width value : Nat) : String :=
  "0x" ++ hex width value

/-- Bytes without marker or separator, two digits each. No other definition
depends on it: it is there for programs that show memory or sprites. -/
def hexBytes (bytes : List UInt8) : String :=
  String.join (bytes.map fun byte => hex 2 byte.toNat)

end Chip8.Text
