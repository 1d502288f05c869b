import Chip8.Instruction

/-! # Instructions as text

An instruction is shown by its name and, in parentheses, its operands as they
were given, in decimal: `Draw(Reg(1), Reg(2), Const(5))`. -/

namespace Chip8

/-! ## Operands -/

inductive Operand where
  | address (target : Address)
  | register (x : Register)
  | constant (value : UInt8)
  | opcode (code : Opcode)
deriving DecidableEq

def Operand.text : Operand → String
  | .address target => "Addr(" ++ toString target.word.toNat ++ ")"
  | .register x => "Reg(" ++ toString x.number.toNat ++ ")"
  | .constant value => "Const(" ++ toString value.toNat ++ ")"
  | .opcode code => "Opcode(" ++ toString code.word.toNat ++ ")"

/-! ## Names and operand lists

The operand lists give the order in which operands are written. -/

namespace Condition

def name : Condition → String
  | .equalsConstant _ _ => "IfRegEqConst"
  | .differsFromConstant _ _ => "IfRegNeqConst"
  | .equalsRegister _ _ => "IfRegEqReg"
  | .differsFromRegister _ _ => "IfRegNeqReg"

def operands : Condition → List Operand
  | .equalsConstant x value => [.register x, .constant value]
  | .differsFromConstant x value => [.register x, .constant value]
  | .equalsRegister x y => [.register x, .register y]
  | .differsFromRegister x y => [.register x, .register y]

end Condition

namespace Source

/-- The name of the assignment that takes its value from this source. -/
def name : Source → String
  | .constant _ => "SetRegToConst"
  | .add _ => "IncRegByConst"
  | .copy _ => "SetRegToReg"
  | .or _ => "BitwiseOr"
  | .and _ => "BitwiseAnd"
  | .xor _ => "BitwiseXor"

def operand : Source → Operand
  | .constant value => .constant value
  | .add value => .constant value
  | .copy y => .register y
  | .or y => .register y
  | .and y => .register y
  | .xor y => .register y

end Source

namespace Arithmetic

def name : Arithmetic → String
  | .add _ => "IncRegByReg"
  | .subtract _ => "DecRegByReg"
  | .subtractFrom _ => "SetVxVyMinusVx"
  | .shiftRight => "BitshiftRight"
  | .shiftLeft => "BitshiftLeft"

def operands : Arithmetic → List Operand
  | .add y => [.register y]
  | .subtract y => [.register y]
  | .subtractFrom y => [.register y]
  | .shiftRight => []
  | .shiftLeft => []

end Arithmetic

namespace Request

def name : Request → String
  | .machineRoutine _ => "MachineCall"
  | .random _ _ => "SetVxRand"
  | .skipIfKeyDown _ => "IfKeyEqVx"
  | .skipIfKeyUp _ => "IfKeyNeqVx"
  | .readDelayTimer _ => "SetRegToDelayTimer"
  | .awaitKey _ => "SetRegToGetKey"
  | .setDelayTimer _ => "SetDelayTimerToReg"
  | .setSoundTimer _ => "SetSoundTimerToReg"
  | .addToIndex _ => "AddRegToI"
  | .pointToGlyph _ => "SetIToSpriteAddrVx"
  | .storeDecimal _ => "SetIToBcdOfReg"
  | .saveRegisters _ => "RegDump"
  | .loadRegisters _ => "RegLoad"

def operands : Request → List Operand
  | .machineRoutine target => [.address target]
  | .random x mask => [.register x, .constant mask]
  | .skipIfKeyDown x => [.register x]
  | .skipIfKeyUp x => [.register x]
  | .readDelayTimer x => [.register x]
  | .awaitKey x => [.register x]
  | .setDelayTimer x => [.register x]
  | .setSoundTimer x => [.register x]
  | .addToIndex x => [.register x]
  | .pointToGlyph x => [.register x]
  | .storeDecimal x => [.register x]
  | .saveRegisters x => [.register x]
  | .loadRegisters x => [.register x]

end Request

namespace Instruction

def name : Instruction → String
  | .nop => "Nop"
  | .clearScreen => "ClearScreen"
  | .ret => "Return"
  | .jump _ => "Goto"
  | .call _ => "Call"
  | .jumpOffset _ => "SetPcToV0PlusAddr"
  | .skipIf condition => condition.name
  | .assign _ source => source.name
  | .compute _ operation => operation.name
  | .setIndex _ => "SetI"
  | .draw _ _ _ => "Draw"
  | .delegate request => request.name
  | .unknown _ => "Unknown"

def operands : Instruction → List Operand
  | .nop => []
  | .clearScreen => []
  | .ret => []
  | .jump target => [.address target]
  | .call target => [.address target]
  | .jumpOffset target => [.address target]
  | .skipIf condition => condition.operands
  | .assign x source => [.register x, source.operand]
  | .compute x operation => .register x :: operation.operands
  | .setIndex target => [.address target]
  | .draw x y rows => [.register x, .register y, .constant rows]
  | .delegate request => request.operands
  | .unknown opcode => [.opcode opcode]

def text (instruction : Instruction) : String :=
  match instruction.operands with
  | [] => instruction.name
  | operands =>
      instruction.name ++ "(" ++ ", ".intercalate (operands.map Operand.text) ++ ")"

example : (draw ⟨1⟩ ⟨2⟩ 5).text = "Draw(Reg(1), Reg(2), Const(5))" := by cbv
example : nop.text = "Nop" := by cbv

end Instruction

end Chip8
