import Chip8.Instruction

/-! # Decoding

Every opcode stands for exactly one instruction. The first nibble selects a
family; families 0, 5, 8, 9, E and F look at further nibbles. The comment at
each line is the pattern of the opcodes it covers. -/

namespace Chip8.Instruction

/-- Family 0: `0000`, `00E0`, `00EE`, and `0NNN` for the rest. -/
def decodeSystem (address : UInt16) : Instruction :=
  match address with
  | 0x000 => .nop
  | 0x0E0 => .clearScreen
  | 0x0EE => .ret
  | _ => .delegate (.machineRoutine ⟨address⟩)

/-- Family 8: `8XYN`, register to register. Shifts ignore `Y`. -/
def decodeRegisters (opcode : Opcode) : Instruction :=
  let x : Register := ⟨opcode.x⟩
  let y : Register := ⟨opcode.y⟩
  match opcode.n with
  | 0x0 => .assign x (.copy y)
  | 0x1 => .assign x (.or y)
  | 0x2 => .assign x (.and y)
  | 0x3 => .assign x (.xor y)
  | 0x4 => .compute x (.add y)
  | 0x5 => .compute x (.subtract y)
  | 0x6 => .compute x .shiftRight
  | 0x7 => .compute x (.subtractFrom y)
  | 0x8 => .compute x .shiftLeft
  | _ => .unknown opcode

/-- Family E: `EX9E` and `EXA1`, skips on the keyboard. -/
def decodeKeyboard (opcode : Opcode) : Instruction :=
  let x : Register := ⟨opcode.x⟩
  match opcode.nn with
  | 0x9E => .delegate (.skipIfKeyDown x)
  | 0xA1 => .delegate (.skipIfKeyUp x)
  | _ => .unknown opcode

/-- Family F: `FXNN`, timers, keyboard, font and blocks of memory. -/
def decodeDevice (opcode : Opcode) : Instruction :=
  let x : Register := ⟨opcode.x⟩
  match opcode.nn with
  | 0x07 => .delegate (.readDelayTimer x)
  | 0x0A => .delegate (.awaitKey x)
  | 0x15 => .delegate (.setDelayTimer x)
  | 0x18 => .delegate (.setSoundTimer x)
  | 0x1E => .delegate (.addToIndex x)
  | 0x29 => .delegate (.pointToGlyph x)
  | 0x33 => .delegate (.storeDecimal x)
  | 0x55 => .delegate (.saveRegisters x)
  | 0x65 => .delegate (.loadRegisters x)
  | _ => .unknown opcode

def decode (opcode : Opcode) : Instruction :=
  let x : Register := ⟨opcode.x⟩
  let y : Register := ⟨opcode.y⟩
  let target : Address := ⟨opcode.nnn⟩
  match opcode.family with
  | 0x0 => decodeSystem opcode.nnn
  | 0x1 => .jump target                                             -- 1NNN
  | 0x2 => .call target                                             -- 2NNN
  | 0x3 => .skipIf (.equalsConstant x opcode.nn)                    -- 3XNN
  | 0x4 => .skipIf (.differsFromConstant x opcode.nn)               -- 4XNN
  | 0x5 => if opcode.n = 0 then .skipIf (.equalsRegister x y)       -- 5XY0
           else .unknown opcode
  | 0x6 => .assign x (.constant opcode.nn)                          -- 6XNN
  | 0x7 => .assign x (.add opcode.nn)                               -- 7XNN
  | 0x8 => decodeRegisters opcode
  | 0x9 => if opcode.n = 0 then .skipIf (.differsFromRegister x y)  -- 9XY0
           else .unknown opcode
  | 0xA => .setIndex target                                         -- ANNN
  | 0xB => .jumpOffset target                                       -- BNNN
  | 0xC => .delegate (.random x opcode.nn)                           -- CXNN
  | 0xD => .draw x y opcode.n                                       -- DXYN
  | 0xE => decodeKeyboard opcode
  | _ => decodeDevice opcode

example : decode ⟨0x00EE⟩ = .ret := by decide
example : decode ⟨0x8AB4⟩ = .compute ⟨0xA⟩ (.add ⟨0xB⟩) := by decide
example : decode ⟨0x5121⟩ = .unknown ⟨0x5121⟩ := by decide
example : decode ⟨0xF365⟩ = .delegate (.loadRegisters ⟨3⟩) := by decide

end Chip8.Instruction
