import Chip8.Proofs.Arithmetic
import Chip8.Proofs.Signals

/-! # Footprints

The parts of a machine that an instruction may change besides the program
counter. Every instruction has at most one of three effects: it writes registers,
sets the index register, or works on the call stack. None writes memory, and what
is handed to the peripheral changes nothing at all. -/

namespace Chip8

/-! ## Effects -/

namespace Instruction

/-- The registers that an instruction writes. Arithmetic writes the flag register
besides its own. -/
def writes : Instruction → List (Fin 16)
  | .assign x _ => [x.index]
  | .compute x _ => [x.index, 15]
  | _ => []

/-- Whether an instruction changes nothing but the program counter. -/
def isPassive : Instruction → Bool
  | .nop => true
  | .clearScreen => true
  | .jump _ => true
  | .jumpOffset _ => true
  | .skipIf _ => true
  | .draw _ _ _ => true
  | .delegate _ => true
  | .unknown _ => true
  | _ => false

end Instruction

namespace Turn

/-- What the index register holds after a turn. -/
def indexAfter (turn : Turn) : Nat :=
  match turn.instruction with
  | .setIndex target => target.word.toNat % 4096
  | _ => turn.machine.index.toNat

/-- What becomes of the call stack: a call puts the location behind itself on top,
a return takes the top away, and nothing else touches it. -/
def ChangesStack (turn : Turn) (after : CallStack) : Prop :=
  let before := turn.machine.stack
  match turn.instruction with
  | .call _ =>
      after.toList = before.toList ++ [.ofNat ((turn.machine.pc.toNat + 2) % 4096)]
  | .ret => ∃ address, before.toList = after.toList ++ [address]
  | _ => after = before

/-- The machine afterwards differs from the one before only where the instruction
may change it. -/
structure Footprint (turn : Turn) (after : Machine) : Prop where
  memory : after.memory = turn.machine.memory
  index : after.index.toNat = turn.indexAfter
  stack : turn.ChangesStack after.stack
  registers : ∀ register, register.index ∉ turn.instruction.writes →
    after.registers.read register = turn.machine.registers.read register

end Turn

theorem RegisterFile.read_writeFlagged_other (registers : RegisterFile) (x : Register)
    (result : Flagged) {other : Register} (unwritten : other.index ∉ [x.index, 15]) :
    (registers.writeFlagged x result).read other = registers.read other := by
  have notOperand : other.index ≠ x.index := fun same => unwritten (by simp [same])
  have notFlag : other.index ≠ 15 := fun same => unwritten (by simp [same])
  rw [read_writeFlagged, if_neg notFlag, if_neg notOperand]

namespace Machine

/-! ## One instruction -/

theorem execute_of_isPassive (machine : Machine) {instruction : Instruction}
    (passive : instruction.isPassive = true) :
    (machine.execute instruction).fault? = none ∧
      ∃ pc, (machine.execute instruction).machine = machine.goTo pc := by
  cases instruction with
  | skipIf condition =>
      rw [execute, advanceSkipping_eq_goTo]
      exact ⟨rfl, _, rfl⟩
  | ret => cases passive
  | call target => cases passive
  | assign x source => cases passive
  | compute x operation => cases passive
  | setIndex target => cases passive
  | _ => exact ⟨rfl, _, rfl⟩

theorem footprint_of_success {machine : Machine} {instruction : Instruction}
    (succeeded : (machine.execute instruction).fault? = none) :
    Turn.Footprint ⟨machine, instruction⟩ (machine.execute instruction).machine := by
  cases instruction with
  | call target =>
      rcases execute_call_of_success succeeded with ⟨stack, pushed, entered⟩
      rw [entered]
      exact ⟨rfl, rfl, by rw [following_eq_ofNat] at pushed; exact pushed, fun _ _ => rfl⟩
  | ret =>
      rcases execute_ret_of_success succeeded with ⟨address, stack, popped, left⟩
      rw [left]
      exact ⟨rfl, rfl, ⟨address, popped⟩, fun _ _ => rfl⟩
  | assign x source =>
      refine ⟨rfl, rfl, rfl, ?_⟩
      intro register unwritten
      apply RegisterFile.read_write_other
      exact fun same => unwritten (List.mem_singleton.mpr same)
  | compute x operation =>
      exact ⟨rfl, rfl, rfl, fun register => RegisterFile.read_writeFlagged_other _ _ _⟩
  | setIndex target => exact ⟨rfl, toNat_wrap _, rfl, fun _ _ => rfl⟩
  | skipIf condition =>
      rw [execute, advanceSkipping_eq_goTo]
      exact ⟨rfl, rfl, rfl, fun _ _ => rfl⟩
  | _ => exact ⟨rfl, rfl, rfl, fun _ _ => rfl⟩

/-- An instruction that succeeds changes nothing outside its footprint. Jumps,
skips, drawing, requests to the peripheral and opcodes without a meaning always
succeed and change nothing but the program counter. -/
theorem changes_within_footprint (machine : Machine) (instruction : Instruction) :
    let outcome := machine.execute instruction
    (outcome.fault? = none →
      Turn.Footprint ⟨machine, instruction⟩ outcome.machine) ∧
      (instruction.isPassive = true →
        outcome.fault? = none ∧
          outcome.machine.memory = machine.memory ∧
          outcome.machine.registers = machine.registers ∧
          outcome.machine.index = machine.index ∧
          outcome.machine.stack = machine.stack) := by
  intro outcome
  refine ⟨footprint_of_success, ?_⟩
  intro passive
  rcases machine.execute_of_isPassive passive with ⟨succeeded, pc, moved⟩
  rw [show outcome.machine = machine.goTo pc from moved]
  exact ⟨succeeded, rfl, rfl, rfl, rfl⟩

/-- In a routine, at the end of memory: a call to a target that is too wide, a sum
whose operands are all the flag register, and a request to save registers. -/
theorem changes_within_footprint_of_nested_call :
    let machine := initial.performAll
      [.executeAll [.call ⟨0x300⟩, .setIndex ⟨0xFABC⟩, .jump ⟨0xFFE⟩]]
    let call := Instruction.call ⟨0x1234⟩
    let sum := Instruction.compute ⟨0x1F⟩ (.add .flag)
    let save := Instruction.delegate (.saveRegisters .flag)
    let called := machine.execute call
    (called.fault? = none ∧ Turn.Footprint ⟨machine, call⟩ called.machine ∧
      called.machine.stack.toList = [0x202, 0x000]) ∧
      Turn.Footprint ⟨machine, sum⟩ (machine.execute sum).machine ∧
      save.isPassive = true ∧ (machine.execute save).machine.index = 0xABC := by
  intro machine call sum save called
  have succeeded : called.fault? = none := by decide +kernel
  have stack : called.machine.stack.toList = [0x202, 0x000] := by decide +kernel
  have index : machine.index = 0xABC := by decide +kernel
  have called := (changes_within_footprint machine call).1 succeeded
  have summed := (changes_within_footprint machine sum).1 rfl
  have saved := (changes_within_footprint machine save).2 rfl
  exact ⟨⟨succeeded, called, stack⟩, summed, rfl, saved.2.2.2.1.trans index⟩

end Machine

end Chip8
