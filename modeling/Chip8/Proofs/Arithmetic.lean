import Chip8.Machine.Execute

/-! # Arithmetic on registers

What an instruction leaves in the registers, in terms of integers: sums with
their carries, differences with a flag for being above zero, and shifted bytes
with the bits shifted out. All operands are read before anything is written. -/

namespace Chip8

/-! ## Laws -/

/-- The value of a register as an integer. -/
def RegisterFile.number (registers : RegisterFile) (register : Register) : Int :=
  (registers.read register).toNat

/-- The value and the flag of an operation on `x` make up the exact result, or are
a difference modulo 256 and whether it is above zero. -/
def Arithmetic.Law (registers : RegisterFile) (x : Register) (operation : Arithmetic)
    (value flag : UInt8) : Prop :=
  let v := registers.number x
  let r : Int := value.toNat
  let f : Int := flag.toNat
  match operation with
  | .add y => r + 256 * f = v + registers.number y
  | .subtract y =>
      r = (v - registers.number y) % 256 ∧ f = if registers.number y < v then 1 else 0
  | .subtractFrom y =>
      r = (registers.number y - v) % 256 ∧ f = if v < registers.number y then 1 else 0
  | .shiftRight => 2 * r + f = v ∧ (f = 0 ∨ f = 1)
  | .shiftLeft => r + 256 * f = 2 * v

/-- A constant, a sum without its carry, a copy, or a combination bit by bit. -/
def Source.Law (registers : RegisterFile) (x : Register) (source : Source)
    (value : UInt8) : Prop :=
  let bit (register : Register) := (registers.read register).toNat.testBit
  match source with
  | .constant given => value = given
  | .add given => (value.toNat : Int) = (registers.number x + given.toNat) % 256
  | .copy y => value = registers.read y
  | .or y => ∀ position,
      value.toNat.testBit position = (bit x position || bit y position)
  | .and y => ∀ position,
      value.toNat.testBit position = (bit x position && bit y position)
  | .xor y => ∀ position,
      value.toNat.testBit position = (bit x position != bit y position)

/-! ## Bytes -/

namespace Arithmetic

theorem sum_add_carry (v w : UInt8) :
    ((v + w).toNat : Int) + 256 * (if v + w < v then 1 else 0 : UInt8).toNat =
      v.toNat + w.toNat := by
  have vBound := v.toNat_lt
  have wBound := w.toNat_lt
  simp only [UInt8.lt_iff_toNat_lt, UInt8.toNat_add]
  split <;> simp only [UInt8.reduceToNat] <;> omega

theorem difference_eq_mod (v w : UInt8) :
    ((v - w).toNat : Int) = ((v.toNat : Int) - w.toNat) % 256 := by
  have wBound := w.toNat_lt
  rw [UInt8.toNat_sub]
  omega

theorem flag_of_greater (v w : UInt8) :
    ((if w < v then 1 else 0 : UInt8).toNat : Int) =
      if (w.toNat : Int) < v.toNat then 1 else 0 := by
  have same : (w.toNat : Int) < v.toNat ↔ w < v := by
    rw [UInt8.lt_iff_toNat_lt, Int.ofNat_lt]
  simp only [same]
  split <;> rfl

theorem half_add_rest (v : UInt8) :
    2 * ((v / 2).toNat : Int) + (v % 2).toNat = v.toNat ∧
      (((v % 2).toNat : Int) = 0 ∨ ((v % 2).toNat : Int) = 1) := by
  simp only [UInt8.toNat_div, UInt8.toNat_mod, UInt8.reduceToNat]
  omega

theorem double_add_carry (v : UInt8) :
    ((v * 2).toNat : Int) + 256 * (v / 128).toNat = 2 * v.toNat := by
  have vBound := v.toNat_lt
  simp only [UInt8.toNat_div, UInt8.toNat_mul, UInt8.reduceToNat]
  omega

/-! ## Results -/

theorem law_result (registers : RegisterFile) (x : Register) (operation : Arithmetic) :
    operation.Law registers x (operation.result registers x).value
      (operation.result registers x).flag := by
  cases operation with
  | add y => exact sum_add_carry _ _
  | subtract y => exact ⟨difference_eq_mod _ _, flag_of_greater _ _⟩
  | subtractFrom y => exact ⟨difference_eq_mod _ _, flag_of_greater _ _⟩
  | shiftRight => exact half_add_rest _
  | shiftLeft => exact double_add_carry _

end Arithmetic

theorem Source.law_value (registers : RegisterFile) (x : Register) (source : Source) :
    source.Law registers x (source.value registers x) := by
  cases source with
  | constant given => rfl
  | add given =>
      simp only [Law, value, RegisterFile.number, UInt8.toNat_add]
      omega
  | copy y => rfl
  | or y =>
      intro position
      simp only [value, UInt8.toNat_or, Nat.testBit_or]
  | and y =>
      intro position
      simp only [value, UInt8.toNat_and, Nat.testBit_and]
  | xor y =>
      intro position
      simp only [value, UInt8.toNat_xor, Nat.testBit_xor]

theorem RegisterFile.read_writeFlagged (registers : RegisterFile) (x : Register)
    (result : Flagged) (register : Register) :
    (registers.writeFlagged x result).read register =
      if register.index = 15 then result.flag
      else if register.index = x.index then result.value
      else registers.read register := by
  rw [writeFlagged, read_write, read_write]
  rfl

/-- An operation with a flag leaves the flag in register 15, its value in `x`
unless that is register 15 too, and all other registers as they were. An
assignment leaves its value in `x` and all other registers as they were. Both
follow their laws on the registers from before, whichever operands coincide. -/
theorem Machine.registers_after_arithmetic (machine : Machine) (x : Register) :
    let before := machine.registers
    (∀ operation : Arithmetic,
      let outcome := machine.execute (.compute x operation)
      ∃ value flag, operation.Law before x value flag ∧ outcome.fault? = none ∧
        ∀ register, outcome.machine.registers.read register =
          if register.index = 15 then flag
          else if register.index = x.index then value
          else before.read register) ∧
      ∀ source : Source,
        let outcome := machine.execute (.assign x source)
        ∃ value, source.Law before x value ∧ outcome.fault? = none ∧
          ∀ register, outcome.machine.registers.read register =
            if register.index = x.index then value else before.read register := by
  intro before
  constructor
  · intro operation outcome
    exact ⟨_, _, operation.law_result before x, rfl, before.read_writeFlagged x _⟩
  · intro source outcome
    exact ⟨_, source.law_value before x, rfl, fun register => before.read_write x register _⟩

/-- The sum is 0x100. Value and carry meet in register 15, and the carry stays. -/
example :
    ((Machine.initial.executeAll
      [.assign .flag (.constant 0x80), .compute .flag (.add .flag)]).machine.registers.read
        .flag) = 1 := by decide

end Chip8
