import Chip8.Text.Hex

/-! # Reading hexadecimal text

The number that a text shows is what was written. -/

namespace Chip8.Text

def digitValue (digit : Char) : Nat :=
  if digit.isDigit then digit.toNat - '0'.toNat else digit.toNat - 'a'.toNat + 10

/-- The number that hexadecimal digits stand for, the highest digit first. -/
def hexValue (digits : List Char) : Nat :=
  digits.foldl (fun value digit => 16 * value + digitValue digit) 0

example : hexValue ['0', '3', 'f'] = 63 := by decide

theorem digitValue_digitChar : ∀ {digit : Nat}, digit < 16 →
    digitValue digit.digitChar = digit := by
  decide

theorem hexValue_append_singleton (digits : List Char) (digit : Char) :
    hexValue (digits ++ [digit]) = 16 * hexValue digits + digitValue digit := by
  rw [hexValue, List.foldl_append]
  rfl

theorem hexValue_toDigits (value : Nat) : hexValue (Nat.toDigits 16 value) = value := by
  induction value using Nat.strongRecOn with
  | ind value induction =>
      rcases Nat.lt_or_ge value 16 with single | several
      · rw [Nat.toDigits_of_lt_base single, hexValue, List.foldl_cons, List.foldl_nil,
          digitValue_digitChar single, Nat.mul_zero, Nat.zero_add]
      · rw [Nat.toDigits_of_base_le (by decide) several, hexValue_append_singleton,
          induction (value / 16) (by omega), digitValue_digitChar (by omega)]
        omega

theorem hexValue_replicate_append (count : Nat) (digits : List Char) :
    hexValue (List.replicate count '0' ++ digits) = hexValue digits := by
  induction count with
  | zero => rfl
  | succ count induction => exact induction

/-- Padding with zeros does not change the number. -/
theorem hexValue_hexDigits (width value : Nat) :
    hexValue (hexDigits width value) = value := by
  rw [hexDigits, List.leftpad, hexValue_replicate_append, hexValue_toDigits]

def hexAlphabet : List Char := "0123456789abcdef".toList

theorem digitChar_mem_hexAlphabet : ∀ {digit : Nat}, digit < 16 →
    digit.digitChar ∈ hexAlphabet := by
  decide

theorem mem_toDigits {base value : Nat} {digit : Char} (several : 1 < base)
    (member : digit ∈ Nat.toDigits base value) : ∃ number < base, digit = number.digitChar := by
  induction value using Nat.strongRecOn with
  | ind value induction =>
      rcases Nat.lt_or_ge value base with single | large
      · rw [Nat.toDigits_of_lt_base single, List.mem_singleton] at member
        exact ⟨value, single, member⟩
      · have smaller : value / base < value := Nat.div_lt_self (by omega) several
        rw [Nat.toDigits_of_base_le several large, List.mem_append,
          List.mem_singleton] at member
        rcases member with higher | last
        · exact induction _ smaller higher
        · exact ⟨value % base, Nat.mod_lt value (by omega), last⟩

/-- Nothing but digits is written. -/
theorem mem_hexAlphabet_of_mem_hexDigits {width value : Nat} {digit : Char}
    (member : digit ∈ hexDigits width value) : digit ∈ hexAlphabet := by
  rw [hexDigits, List.leftpad, List.mem_append] at member
  rcases member with padding | written
  · rw [(List.mem_replicate.mp padding).2]
    decide
  · rcases mem_toDigits (by decide) written with ⟨number, small, rfl⟩
    exact digitChar_mem_hexAlphabet small

/-- The marker shows where the digits begin. -/
theorem ne_marker_of_mem_hexDigits {width value : Nat} {digit : Char}
    (member : digit ∈ hexDigits width value) : digit ≠ 'x' := by
  have noDigit : 'x' ∉ hexAlphabet := by decide
  rintro rfl
  exact noDigit (mem_hexAlphabet_of_mem_hexDigits member)

/-- Padding stops at the width. -/
theorem length_hexDigits {width value : Nat}
    (short : (Nat.toDigits 16 value).length ≤ width) :
    (hexDigits width value).length = width := by
  rw [hexDigits, List.leftpad, List.length_append, List.length_replicate]
  omega

/-! ## Numbers at the end of a text -/

/-- The number whose digits follow the last marker of a text. -/
def lastNumber (text : List Char) : Nat :=
  hexValue (text.reverse.takeWhile (· ≠ 'x')).reverse

theorem lastNumber_append_hexDigits (before : List Char) (width value : Nat) :
    lastNumber (before ++ 'x' :: hexDigits width value) = value := by
  have digitsOnly : ∀ digit ∈ (hexDigits width value).reverse, digit ≠ 'x' :=
    fun digit member => ne_marker_of_mem_hexDigits (List.mem_reverse.mp member)
  rw [lastNumber, List.reverse_append, List.reverse_cons, List.append_assoc,
    List.takeWhile_append_of_pos (by simpa using digitsOnly), List.singleton_append,
    List.takeWhile_cons_of_neg (by simp), List.append_nil, List.reverse_reverse,
    hexValue_hexDigits]

end Chip8.Text
