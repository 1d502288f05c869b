import Chip8.Console
import Chip8.Proofs.Execution

/-! # Bounds on the words of a machine

The program counter, the index register and all return addresses name cells of
memory, whatever a machine has been through. -/

namespace Chip8

namespace Machine

structure Bounded (machine : Machine) : Prop where
  pc_lt : machine.pc.toNat < memorySize
  index_lt : machine.index.toNat < memorySize
  depth_le : machine.stack.depth ≤ 16
  address_lt : ∀ address ∈ machine.stack.toList, address.toNat < memorySize

namespace Bounded

variable {machine : Machine}

theorem initial : Machine.initial.Bounded where
  pc_lt := by decide
  index_lt := by decide
  depth_le := CallStack.empty.depth_le
  address_lt := by simp [Machine.initial]

/-! What is not a word may change freely. -/

theorem withMemory (bounded : machine.Bounded) (memory : Memory) :
    { machine with memory }.Bounded :=
  ⟨bounded.pc_lt, bounded.index_lt, bounded.depth_le, bounded.address_lt⟩

theorem withRegisters (bounded : machine.Bounded) (registers : RegisterFile) :
    { machine with registers }.Bounded :=
  ⟨bounded.pc_lt, bounded.index_lt, bounded.depth_le, bounded.address_lt⟩

theorem withIndex (bounded : machine.Bounded) {index : UInt16}
    (inside : index.toNat < memorySize) : { machine with index }.Bounded :=
  ⟨bounded.pc_lt, inside, bounded.depth_le, bounded.address_lt⟩

theorem goTo (bounded : machine.Bounded) {pc : UInt16}
    (inside : pc.toNat < memorySize) : (machine.goTo pc).Bounded :=
  ⟨inside, bounded.index_lt, bounded.depth_le, bounded.address_lt⟩

theorem advance (bounded : machine.Bounded) : machine.advance.Bounded :=
  bounded.goTo (toNat_wrap_lt _)

theorem advanceSkipping (bounded : machine.Bounded) (condition : Condition) :
    (machine.advanceSkipping condition).Bounded := by
  rw [Machine.advanceSkipping]
  split
  · exact bounded.goTo (toNat_wrap_lt _)
  · exact bounded.advance

theorem enterRoutine (bounded : machine.Bounded) (target : Address) :
    (machine.enterRoutine target).machine.Bounded := by
  rcases Nat.lt_or_eq_of_le bounded.depth_le with room | full
  · rcases enterRoutine_of_room room target with ⟨stack, pushed, entered⟩
    have saved : ∀ address ∈ stack.toList, address.toNat < memorySize := by
      intro address occupied
      rw [pushed] at occupied
      rcases List.mem_append.mp occupied with older | newest
      · exact bounded.address_lt address older
      · rw [List.mem_singleton.mp newest]
        exact toNat_wrap_lt _
    rw [entered]
    exact ⟨toNat_wrap_lt _, bounded.index_lt, stack.depth_le, saved⟩
  · rw [enterRoutine_of_full full]
    exact bounded

theorem leaveRoutine (bounded : machine.Bounded) :
    machine.leaveRoutine.machine.Bounded := by
  rcases Nat.eq_zero_or_pos machine.stack.depth with empty | occupied
  · rw [leaveRoutine_of_empty empty]
    exact bounded
  · rcases leaveRoutine_of_occupied occupied with ⟨address, stack, popped, left⟩
    rw [left]
    have saved : ∀ other ∈ stack.toList ++ [address], other.toNat < memorySize :=
      popped ▸ bounded.address_lt
    exact ⟨saved address (by simp), bounded.index_lt, stack.depth_le,
      fun other older => saved other (List.mem_append_left _ older)⟩

theorem execute (bounded : machine.Bounded) (instruction : Instruction) :
    (machine.execute instruction).machine.Bounded := by
  cases instruction with
  | nop => exact bounded.advance
  | clearScreen => exact bounded.advance
  | ret => exact bounded.leaveRoutine
  | jump target => exact bounded.goTo (toNat_wrap_lt _)
  | call target => exact bounded.enterRoutine target
  | jumpOffset target => exact bounded.goTo (toNat_wrap_lt _)
  | skipIf condition => exact bounded.advanceSkipping condition
  | assign x source => exact bounded.advance.withRegisters _
  | compute x operation => exact bounded.advance.withRegisters _
  | setIndex target => exact bounded.advance.withIndex (toNat_wrap_lt _)
  | draw x y rows => exact bounded.advance
  | delegate request => exact bounded.advance
  | unknown opcode => exact bounded.advance

theorem load (bounded : machine.Bounded) (program : List UInt8) :
    (machine.load program).machine.Bounded := by
  rw [Machine.load]
  split
  · exact bounded.withMemory _
  · exact bounded

theorem invariant : Invariant Bounded where
  load _ program bounded := bounded.load program
  execute _ instruction bounded := bounded.execute instruction

theorem performAll (bounded : machine.Bounded) (operations : List Operation) :
    (machine.performAll operations).Bounded :=
  invariant.performAll bounded operations

end Bounded

end Machine

universe u

theorem Console.bounded_performAll {State : Type u} (peripheral : Peripheral State)
    (state : State) (operations : List Operation) :
    ((initial state).performAll peripheral operations).machine.Bounded := by
  rw [machine_performAll]
  exact Machine.Bounded.initial.performAll operations

end Chip8
