import Chip8.Instruction

/-! # Encoding

The opcode that stands for an instruction. Of each operand the low bits are
used, as many as its field has. Shifts leave the field for `Y` zero. -/

namespace Chip8

namespace Opcode

/-! The three layouts of operands after the family nibble. -/

def ofAddress (family : UInt16) (target : Address) : Opcode :=
  ⟨family * 0x1000 + target.word % 0x1000⟩

def ofByte (family : UInt16) (x : Register) (nn : UInt8) : Opcode :=
  ⟨family * 0x1000 + x.number.toUInt16 % 0x10 * 0x100 + nn.toUInt16⟩

def ofNibbles (family : UInt16) (x y : Register) (n : UInt8) : Opcode :=
  ⟨family * 0x1000 + x.number.toUInt16 % 0x10 * 0x100 +
    y.number.toUInt16 % 0x10 * 0x10 + n.toUInt16 % 0x10⟩

end Opcode

def Condition.encode : Condition → Opcode
  | .equalsConstant x value => .ofByte 0x3 x value
  | .differsFromConstant x value => .ofByte 0x4 x value
  | .equalsRegister x y => .ofNibbles 0x5 x y 0x0
  | .differsFromRegister x y => .ofNibbles 0x9 x y 0x0

def Source.encode (x : Register) : Source → Opcode
  | .constant value => .ofByte 0x6 x value
  | .add value => .ofByte 0x7 x value
  | .copy y => .ofNibbles 0x8 x y 0x0
  | .or y => .ofNibbles 0x8 x y 0x1
  | .and y => .ofNibbles 0x8 x y 0x2
  | .xor y => .ofNibbles 0x8 x y 0x3

def Arithmetic.encode (x : Register) : Arithmetic → Opcode
  | .add y => .ofNibbles 0x8 x y 0x4
  | .subtract y => .ofNibbles 0x8 x y 0x5
  | .shiftRight => .ofNibbles 0x8 x ⟨0⟩ 0x6
  | .subtractFrom y => .ofNibbles 0x8 x y 0x7
  | .shiftLeft => .ofNibbles 0x8 x ⟨0⟩ 0x8

def Request.encode : Request → Opcode
  | .machineRoutine target => .ofAddress 0x0 target
  | .random x mask => .ofByte 0xC x mask
  | .skipIfKeyDown x => .ofByte 0xE x 0x9E
  | .skipIfKeyUp x => .ofByte 0xE x 0xA1
  | .readDelayTimer x => .ofByte 0xF x 0x07
  | .awaitKey x => .ofByte 0xF x 0x0A
  | .setDelayTimer x => .ofByte 0xF x 0x15
  | .setSoundTimer x => .ofByte 0xF x 0x18
  | .addToIndex x => .ofByte 0xF x 0x1E
  | .pointToGlyph x => .ofByte 0xF x 0x29
  | .storeDecimal x => .ofByte 0xF x 0x33
  | .saveRegisters x => .ofByte 0xF x 0x55
  | .loadRegisters x => .ofByte 0xF x 0x65

def Instruction.encode : Instruction → Opcode
  | .nop => ⟨0x0000⟩
  | .clearScreen => ⟨0x00E0⟩
  | .ret => ⟨0x00EE⟩
  | .jump target => .ofAddress 0x1 target
  | .call target => .ofAddress 0x2 target
  | .jumpOffset target => .ofAddress 0xB target
  | .skipIf condition => condition.encode
  | .assign x source => source.encode x
  | .compute x operation => operation.encode x
  | .setIndex target => .ofAddress 0xA target
  | .draw x y rows => .ofNibbles 0xD x y rows
  | .delegate request => request.encode
  | .unknown opcode => opcode

example : (Instruction.compute ⟨0xA⟩ (.add ⟨0xB⟩)).encode = ⟨0x8AB4⟩ := by decide
example : (Instruction.draw ⟨1⟩ ⟨2⟩ 5).encode = ⟨0xD125⟩ := by decide

/-- The bytes of a list of instructions, in the order in which they lie in
memory. -/
def assemble (program : List Instruction) : List UInt8 :=
  program.flatMap fun instruction =>
    [instruction.encode.high, instruction.encode.low]

theorem length_assemble (program : List Instruction) :
    (assemble program).length = 2 * program.length := by
  induction program with
  | nil => rfl
  | cons instruction rest induction =>
      rw [assemble, List.flatMap_cons, List.length_append, ← assemble, induction,
        List.length_cons, List.length_cons, List.length_cons, List.length_nil]
      omega

end Chip8
