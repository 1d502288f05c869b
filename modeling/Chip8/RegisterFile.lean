import Chip8.Instruction

/-! # The register file

Sixteen byte registers, named by the low four bits of a register operand. -/

namespace Chip8

structure RegisterFile where
  values : Vector UInt8 16
deriving DecidableEq

namespace RegisterFile

def zeroed : RegisterFile := ⟨Vector.replicate 16 0⟩

def read (registers : RegisterFile) (register : Register) : UInt8 :=
  registers.values[register.index]

def write (registers : RegisterFile) (register : Register) (value : UInt8) :
    RegisterFile :=
  ⟨registers.values.set register.index value⟩

/-- All values, register 0 first. -/
def toList (registers : RegisterFile) : List UInt8 :=
  registers.values.toList

/-! A write is seen by reads of the same register and by no others. -/

theorem read_write_same (registers : RegisterFile) {register other : Register}
    (value : UInt8) (same : other.index = register.index) :
    (registers.write register value).read other = value := by
  simp [read, write, same]

theorem read_write_other (registers : RegisterFile) {register other : Register}
    (value : UInt8) (different : other.index ≠ register.index) :
    (registers.write register value).read other = registers.read other := by
  have differentValue : register.index.val ≠ other.index.val :=
    fun equal => different (Fin.ext equal.symm)
  simp [read, write, Vector.getElem_set_ne, differentValue]

theorem read_write (registers : RegisterFile) (register other : Register)
    (value : UInt8) :
    (registers.write register value).read other =
      if other.index = register.index then value else registers.read other := by
  split
  · exact read_write_same registers value ‹_›
  · exact read_write_other registers value ‹_›

theorem read_congr (registers : RegisterFile) {register other : Register}
    (same : register.index = other.index) :
    registers.read register = registers.read other := by
  simp only [read, same]

theorem ext_read {left right : RegisterFile}
    (same : ∀ register, left.read register = right.read register) :
    left = right := by
  rcases left with ⟨leftValues⟩
  rcases right with ⟨rightValues⟩
  congr 1
  apply Vector.ext
  intro position inside
  have equal := same ⟨UInt8.ofNat position⟩
  simpa [read, Register.index, Nat.mod_eq_of_lt inside] using equal

@[simp] theorem read_zeroed (register : Register) : zeroed.read register = 0 := by
  simp [read, zeroed]

@[simp] theorem length_toList (registers : RegisterFile) :
    registers.toList.length = 16 := by
  simp [toList]

theorem toList_inj {left right : RegisterFile} :
    left.toList = right.toList ↔ left = right := by
  rw [toList, toList, Vector.toList_inj]
  constructor
  · exact congrArg mk
  · exact congrArg values

theorem toList_eq_map_read (registers : RegisterFile) :
    registers.toList =
      (List.range 16).map fun number => registers.read ⟨UInt8.ofNat number⟩ := by
  apply List.ext_getElem
  · simp
  · intro position inside _
    have bound : position < 16 := by simpa using inside
    simp [toList, read, Register.index, Nat.mod_eq_of_lt bound]

end RegisterFile

end Chip8
