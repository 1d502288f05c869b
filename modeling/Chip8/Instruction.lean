import Chip8.Address
import Chip8.Opcode

/-! # Instructions

The instruction set, grouped by what an instruction does. Operands are kept as
they were given: an address may have more than twelve bits and a register
number more than four, and each use takes the low bits. -/

namespace Chip8

/-! ## Operands -/

/-- A register operand. Only the low four bits of the number count. -/
structure Register where
  number : UInt8
deriving DecidableEq

namespace Register

def index (register : Register) : Fin 16 :=
  ⟨register.number.toNat % 16, by omega⟩

/-- The register that receives carries, borrows and shifted-out bits. -/
def flag : Register := ⟨0xF⟩

example : (Register.mk 0x2F).index = flag.index := rfl

end Register

/-! ## Instruction groups -/

/-- The test of a skip instruction on registers. -/
inductive Condition where
  | equalsConstant (x : Register) (value : UInt8)
  | differsFromConstant (x : Register) (value : UInt8)
  | equalsRegister (x y : Register)
  | differsFromRegister (x y : Register)
deriving DecidableEq

/-- What is written into a register when no flag is involved. `add`, `or`,
`and` and `xor` combine the operand with the register's old value. -/
inductive Source where
  | constant (value : UInt8)
  | add (value : UInt8)
  | copy (y : Register)
  | or (y : Register)
  | and (y : Register)
  | xor (y : Register)
deriving DecidableEq

/-- Operations on a register that also set the flag register. -/
inductive Arithmetic where
  | add (y : Register)
  | subtract (y : Register)
  | subtractFrom (y : Register)
  | shiftRight
  | shiftLeft
deriving DecidableEq

/-- Instructions about things outside the core: machine code routines, chance,
the keyboard, the timers, the font, and blocks of memory. The core hands them
to its peripheral and goes on. -/
inductive Request where
  | machineRoutine (target : Address)
  | random (x : Register) (mask : UInt8)
  | skipIfKeyDown (x : Register)
  | skipIfKeyUp (x : Register)
  | readDelayTimer (x : Register)
  | awaitKey (x : Register)
  | setDelayTimer (x : Register)
  | setSoundTimer (x : Register)
  | addToIndex (x : Register)
  | pointToGlyph (x : Register)
  | storeDecimal (x : Register)
  | saveRegisters (x : Register)
  | loadRegisters (x : Register)
deriving DecidableEq

inductive Instruction where
  | nop
  | clearScreen
  | ret
  | jump (target : Address)
  | call (target : Address)
  /-- Jump to the target plus the value of register 0. -/
  | jumpOffset (target : Address)
  | skipIf (condition : Condition)
  | assign (x : Register) (source : Source)
  | compute (x : Register) (operation : Arithmetic)
  | setIndex (target : Address)
  /-- Draw `rows` bytes, found from the index register on, at the position
  that two registers hold. -/
  | draw (x y : Register) (rows : UInt8)
  | delegate (request : Request)
  /-- An opcode that stands for no instruction. -/
  | unknown (opcode : Opcode)
deriving DecidableEq

end Chip8
