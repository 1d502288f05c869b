import Chip8.Machine

/-! # The register dump

Six lines show everything of a machine but its memory: the two pointers, the
registers four to a line, and the return addresses, oldest first. -/

namespace Chip8.Machine

private def pointerLine (machine : Machine) : String :=
  "PC: " ++ Text.hexLiteral 3 machine.pc.toNat ++
    "  I: " ++ Text.hexLiteral 3 machine.index.toNat

private def registerField (machine : Machine) (number : Nat) : String :=
  let value := machine.registers.read ⟨UInt8.ofNat number⟩
  "V" ++ String.singleton number.digitChar.toUpper ++ ": " ++
    Text.hexLiteral 2 value.toNat

private def registerLine (machine : Machine) (first : Nat) : String :=
  "  ".intercalate
    ((List.range' first 4).map fun number => machine.registerField number)

private def stackLine (machine : Machine) : String :=
  "Stack:" ++
    String.join (machine.stack.toList.map fun address =>
      " " ++ Text.hexLiteral 3 address.toNat)

def dump (machine : Machine) : String :=
  let lines := [machine.pointerLine, machine.registerLine 0, machine.registerLine 4,
    machine.registerLine 8, machine.registerLine 12, machine.stackLine]
  String.join (lines.map fun line => line ++ "\n")

theorem dump_congr {left right : Machine} (pc : left.pc = right.pc)
    (index : left.index = right.index) (registers : left.registers = right.registers)
    (addresses : left.stack.toList = right.stack.toList) : left.dump = right.dump := by
  simp only [dump, pointerLine, registerLine, registerField, stackLine, pc, index,
    registers, addresses]

end Chip8.Machine
