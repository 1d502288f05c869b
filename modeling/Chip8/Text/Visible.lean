import Chip8.Text.CharacterTables

/-! # Visible characters

A character is visible if it can be shown as itself and stands alone. The space
is visible and other separators are not. The half-width sound marks extend the
character before them, but have a width of their own and are visible; the
fillers for missing letters are assigned as letters, but show nothing. -/

namespace Chip8.Text

def isHalfWidthSoundMark (codePoint : Nat) : Bool :=
  codePoint = 0xFF9E || codePoint = 0xFF9F

def isFiller (codePoint : Nat) : Bool :=
  codePoint = 0x115F || codePoint = 0x1160 || codePoint = 0x3164 || codePoint = 0xFFA0

/-- Printable ASCII is decided without the tables. -/
def isVisible (char : Char) : Bool :=
  let codePoint := char.toNat
  if codePoint < 0x7F then
    0x20 ≤ codePoint
  else
    !isFiller codePoint && !inRanges separators codePoint &&
      (isHalfWidthSoundMark codePoint || !inRanges extenders codePoint) &&
      !inRanges others codePoint

example : isVisible ' ' ∧ ¬ isVisible '\x1b' ∧ ¬ isVisible '\u00a0' := by decide

end Chip8.Text
