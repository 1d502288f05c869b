import Chip8.Proofs.Footprints
import Chip8.Proofs.Wired

/-! # Registers that are not read

What a register holds has no influence on instructions that do not read it: they
end the same way and leave everything else the same. Once one of them has written
the register, nothing is left of its old value. Whatever reaches the peripheral
does not count as read, because it never comes back. -/

namespace Chip8

universe u v

/-! ## Reads -/

def Condition.reads : Condition → List (Fin 16)
  | .equalsConstant x _ => [x.index]
  | .differsFromConstant x _ => [x.index]
  | .equalsRegister x y => [x.index, y.index]
  | .differsFromRegister x y => [x.index, y.index]

/-- A register that is only assigned to is not read. -/
def Source.reads (x : Register) : Source → List (Fin 16)
  | .constant _ => []
  | .add _ => [x.index]
  | .copy y => [y.index]
  | .or y => [x.index, y.index]
  | .and y => [x.index, y.index]
  | .xor y => [x.index, y.index]

def Arithmetic.reads (x : Register) : Arithmetic → List (Fin 16)
  | .add y => [x.index, y.index]
  | .subtract y => [x.index, y.index]
  | .subtractFrom y => [x.index, y.index]
  | .shiftRight => [x.index]
  | .shiftLeft => [x.index]

/-- The registers on which depends what an instruction does to the machine. -/
def Instruction.reads : Instruction → List (Fin 16)
  | .jumpOffset _ => [(Register.mk 0).index]
  | .skipIf condition => condition.reads
  | .assign x source => source.reads x
  | .compute x operation => operation.reads x
  | _ => []

/-! ## Registers that agree -/

namespace RegisterFile

variable {hidden : Fin 16} {left right : RegisterFile}

/-- Two register files that differ at most in one register. -/
def EqualBut (hidden : Fin 16) (left right : RegisterFile) : Prop :=
  ∀ register : Register, register.index ≠ hidden → left.read register = right.read register

/-- Two register files that hold the same in these registers. -/
def AgreeOn (names : List (Fin 16)) (left right : RegisterFile) : Prop :=
  ∀ register : Register, register.index ∈ names → left.read register = right.read register

theorem EqualBut.agreeOn (same : left.EqualBut hidden right) {names : List (Fin 16)}
    (unread : hidden ∉ names) : left.AgreeOn names right := by
  intro register named
  apply same register
  rintro rfl
  exact unread named

theorem EqualBut.write (same : left.EqualBut hidden right) (register : Register)
    (value : UInt8) :
    (left.write register value).EqualBut hidden (right.write register value) := by
  intro other visible
  rw [read_write, read_write, same other visible]

/-- Writing the register in which they differ makes them equal. -/
theorem EqualBut.write_eq (same : left.EqualBut hidden right) {register : Register}
    (overwritten : hidden = register.index) (value : UInt8) :
    left.write register value = right.write register value := by
  apply ext_read
  intro other
  rw [read_write, read_write]
  by_cases written : other.index = register.index
  · rw [if_pos written, if_pos written]
  · rw [if_neg written, if_neg written]
    exact same other fun isHidden => written (isHidden.trans overwritten)

end RegisterFile

section Values

variable {left right : RegisterFile}

theorem Condition.holds_congr {condition : Condition}
    (agree : left.AgreeOn condition.reads right) :
    condition.holds left = condition.holds right := by
  cases condition with
  | equalsConstant x value | differsFromConstant x value =>
      rw [holds, holds, agree x (by simp [reads])]
  | equalsRegister x y | differsFromRegister x y =>
      rw [holds, holds, agree x (by simp [reads]), agree y (by simp [reads])]

theorem Source.value_congr {x : Register} {source : Source}
    (agree : left.AgreeOn (source.reads x) right) :
    source.value left x = source.value right x := by
  cases source with
  | constant given => rfl
  | add given => rw [value, value, agree x (by simp [reads])]
  | copy y => exact agree y (by simp [reads])
  | or y | and y | xor y =>
      rw [value, value, agree x (by simp [reads]), agree y (by simp [reads])]

theorem Arithmetic.result_congr {x : Register} {operation : Arithmetic}
    (agree : left.AgreeOn (operation.reads x) right) :
    operation.result left x = operation.result right x := by
  cases operation with
  | add y | subtract y | subtractFrom y =>
      simp only [result, agree x (by simp [reads]), agree y (by simp [reads])]
  | shiftRight | shiftLeft => rw [result, result, agree x (by simp [reads])]

end Values

/-! ## Machines that differ in one register -/

structure Machine.EqualButRegister (hidden : Fin 16) (left right : Machine) : Prop where
  memory : left.memory = right.memory
  index : left.index = right.index
  pc : left.pc = right.pc
  stack : left.stack = right.stack
  registers : left.registers.EqualBut hidden right.registers

/-- Two outcomes that differ at most in one register and in what they signal. -/
structure Outcome.EqualButRegister (hidden : Fin 16) (left right : Outcome) : Prop where
  fault : left.fault? = right.fault?
  events : left.events = right.events
  machine : left.machine.EqualButRegister hidden right.machine

theorem Outcome.EqualButRegister.andThen {hidden : Fin 16} {left right : Outcome}
    {leftRest rightRest : Machine → Outcome} (same : left.EqualButRegister hidden right)
    (later : (leftRest left.machine).EqualButRegister hidden (rightRest right.machine)) :
    (left.andThen leftRest).EqualButRegister hidden (right.andThen rightRest) := by
  cases faulted : left.fault? with
  | some fault =>
      rw [andThen_of_fault faulted, andThen_of_fault (same.fault ▸ faulted)]
      exact same
  | none =>
      rw [andThen_of_success faulted, andThen_of_success (same.fault ▸ faulted)]
      refine ⟨later.fault, ?_, later.machine⟩
      change left.events ++ _ = right.events ++ _
      rw [same.events, later.events]

namespace Machine.EqualButRegister

variable {hidden : Fin 16} {left right : Machine}

theorem eq_withRegisters (same : left.EqualButRegister hidden right) :
    right = { left with registers := right.registers } := by
  rcases right with ⟨memory, registers, index, pc, stack⟩
  rw [same.memory, same.index, same.pc, same.stack]

theorem goTo (same : left.EqualButRegister hidden right) (pc : UInt16) :
    (left.goTo pc).EqualButRegister hidden (right.goTo pc) :=
  ⟨same.memory, same.index, rfl, same.stack, same.registers⟩

theorem enterRoutine (same : left.EqualButRegister hidden right) (target : Address) :
    (left.enterRoutine target).EqualButRegister hidden (right.enterRoutine target) := by
  rw [Machine.enterRoutine, Machine.enterRoutine, same.stack, same.pc]
  cases right.stack.push? (following right.pc) with
  | none => exact ⟨rfl, rfl, same⟩
  | some stack => exact ⟨rfl, rfl, same.memory, same.index, rfl, rfl, same.registers⟩

theorem leaveRoutine (same : left.EqualButRegister hidden right) :
    left.leaveRoutine.EqualButRegister hidden right.leaveRoutine := by
  rw [Machine.leaveRoutine, Machine.leaveRoutine, same.stack]
  cases right.stack.pop? with
  | none => exact ⟨rfl, rfl, same⟩
  | some top => exact ⟨rfl, rfl, same.memory, same.index, rfl, rfl, same.registers⟩

/-! One instruction that does not read the register. -/

theorem execute (same : left.EqualButRegister hidden right) {instruction : Instruction}
    (unread : hidden ∉ instruction.reads) :
    (left.execute instruction).EqualButRegister hidden (right.execute instruction) := by
  have agree := same.registers.agreeOn unread
  have advanced : left.advance.EqualButRegister hidden right.advance := by
    rw [advance_eq_goTo, advance_eq_goTo, same.pc]
    exact same.goTo _
  cases instruction with
  | nop => exact ⟨rfl, rfl, advanced⟩
  | clearScreen => exact ⟨rfl, rfl, advanced⟩
  | ret => exact same.leaveRoutine
  | jump target => exact ⟨rfl, rfl, same.goTo _⟩
  | call target => exact same.enterRoutine target
  | jumpOffset target =>
      rw [Machine.execute, Machine.execute, agree ⟨0⟩ (List.mem_singleton.mpr rfl)]
      exact ⟨rfl, rfl, same.goTo _⟩
  | skipIf condition =>
      rw [Machine.execute, Machine.execute, advanceSkipping_eq_goTo,
        advanceSkipping_eq_goTo, Condition.holds_congr agree, same.pc]
      exact ⟨rfl, rfl, same.goTo _⟩
  | assign x source =>
      rw [Machine.execute, Machine.execute, Source.value_congr agree]
      exact ⟨rfl, rfl, same.memory, same.index, advanced.pc, same.stack,
        same.registers.write x _⟩
  | compute x operation =>
      rw [Machine.execute, Machine.execute, Arithmetic.result_congr agree]
      exact ⟨rfl, rfl, same.memory, same.index, advanced.pc, same.stack,
        (same.registers.write x _).write .flag _⟩
  | setIndex target =>
      exact ⟨rfl, rfl, same.memory, rfl, advanced.pc, same.stack, same.registers⟩
  | draw x y rows => exact ⟨rfl, rfl, advanced⟩
  | delegate request => exact ⟨rfl, rfl, advanced⟩
  | unknown opcode =>
      rw [Machine.execute, Machine.execute, same.pc]
      exact ⟨rfl, rfl, advanced⟩

/-- An instruction that writes the register without reading it leaves nothing of
the difference. -/
theorem machine_execute_eq (same : left.EqualButRegister hidden right)
    {instruction : Instruction} (unread : hidden ∉ instruction.reads)
    (written : hidden ∈ instruction.writes) :
    (left.execute instruction).machine = (right.execute instruction).machine := by
  have outcomes := same.execute unread
  rw [outcomes.machine.eq_withRegisters]
  suffices registers : (left.execute instruction).machine.registers =
      (right.execute instruction).machine.registers by rw [← registers]
  have agree := same.registers.agreeOn unread
  cases instruction with
  | assign x source =>
      rw [Machine.execute, Machine.execute, Source.value_congr agree]
      exact same.registers.write_eq (List.mem_singleton.mp written) _
  | compute x operation =>
      rw [Machine.execute, Machine.execute, Arithmetic.result_congr agree]
      -- The first write that reaches the register settles it; the second one cannot
      -- bring the difference back.
      rcases List.mem_cons.mp written with operand | flag
      · exact congrArg (RegisterFile.write · .flag _) (same.registers.write_eq operand _)
      · have last : hidden = Register.flag.index := List.mem_singleton.mp flag
        exact (same.registers.write x _).write_eq last _
  | _ => cases written

/-! Lists of such instructions. -/

theorem executeAll (same : left.EqualButRegister hidden right)
    {instructions : List Instruction}
    (unread : ∀ instruction ∈ instructions, hidden ∉ instruction.reads) :
    (left.executeAll instructions).EqualButRegister hidden
      (right.executeAll instructions) := by
  induction instructions generalizing left right with
  | nil => exact ⟨rfl, rfl, same⟩
  | cons instruction rest induction =>
      rw [List.forall_mem_cons] at unread
      have first := same.execute unread.1
      exact first.andThen (induction first.machine unread.2)

theorem machine_executeAll_eq (same : left.EqualButRegister hidden right)
    {instructions : List Instruction}
    (unread : ∀ instruction ∈ instructions, hidden ∉ instruction.reads)
    (written : ∃ turn ∈ left.turnsOf instructions, hidden ∈ turn.instruction.writes) :
    (left.executeAll instructions).machine = (right.executeAll instructions).machine := by
  induction instructions generalizing left right with
  | nil =>
      rcases written with ⟨turn, member, _⟩
      cases member
  | cons instruction rest induction =>
      rw [List.forall_mem_cons] at unread
      rw [turnsOf] at written
      have first := same.execute unread.1
      cases faulted : (left.execute instruction).fault? with
      | some fault =>
          rw [faulted] at written
          rcases written with ⟨turn, member, _⟩
          cases member
      | none =>
          rw [Machine.executeAll, Machine.executeAll, Outcome.andThen_of_success faulted,
            Outcome.andThen_of_success (first.fault ▸ faulted)]
          simp only [faulted, List.mem_cons, exists_eq_or_imp] at written
          rcases written with here | later
          · exact congrArg (fun machine => (machine.executeAll rest).machine)
              (same.machine_execute_eq unread.1 here)
          · exact induction first.machine unread.2 later

end Machine.EqualButRegister

/-- On two machines that differ in one register, instructions that do not read it
end with the same fault or none, report the same and leave machines that differ in
nothing else, whatever peripherals there are. If one of those that succeed writes
the register, the machines are the same afterwards. In particular the old flag is
no part of a result, unless the flag register is an operand. -/
theorem Wired.unread_register_has_no_influence {First : Type u} {Second : Type v}
    (first : Peripheral First) (second : Peripheral Second) {left : Console First}
    {right : Console Second} {hidden : Fin 16}
    (same : left.machine.EqualButRegister hidden right.machine)
    {instructions : List Instruction}
    (unread : ∀ instruction ∈ instructions, hidden ∉ instruction.reads) :
    let leftResult := Wired.executeAll first left instructions
    let rightResult := Wired.executeAll second right instructions
    leftResult.fault? = rightResult.fault? ∧ leftResult.events = rightResult.events ∧
      leftResult.machine.EqualButRegister hidden rightResult.machine ∧
      ((∃ turn ∈ left.machine.turnsOf instructions, hidden ∈ turn.instruction.writes) →
        leftResult.machine = rightResult.machine) ∧
      (∀ (x : Register) (operation : Arithmetic), hidden ∉ operation.reads x →
        operation.result left.machine.registers x =
          operation.result right.machine.registers x) ∧
      ∀ (x : Register) (source : Source), hidden ∉ source.reads x →
        source.value left.machine.registers x = source.value right.machine.registers x := by
  intro leftResult rightResult
  have leftAfter : leftResult.toOutcome = left.machine.executeAll instructions :=
    congrArg Wired.Result.toOutcome (Wired.executeAll_eq first left instructions)
  have rightAfter : rightResult.toOutcome = right.machine.executeAll instructions :=
    congrArg Wired.Result.toOutcome (Wired.executeAll_eq second right instructions)
  rw [leftAfter, rightAfter]
  have outcomes := same.executeAll unread
  refine ⟨outcomes.fault, outcomes.events, outcomes.machine, ?_, ?_, ?_⟩
  · intro written
    exact same.machine_executeAll_eq unread written
  · intro x operation unreadOperands
    exact Arithmetic.result_congr (same.registers.agreeOn unreadOperands)
  · intro x source unreadOperands
    exact Source.value_congr (same.registers.agreeOn unreadOperands)

/-- The flags differ, and so do the peripherals. A sum is computed in between, and a
return fails in the end. -/
theorem Wired.unread_register_has_no_influence_on_a_sum :
    let machine (flag : UInt8) :=
      Machine.initial.performAll [.execute (.assign .flag (.constant flag))]
    let left : Console Unit := ⟨machine 0x55, ()⟩
    let right : Console Recording := ⟨machine 0, .empty⟩
    let instructions : List Instruction :=
      [.delegate (.saveRegisters .flag), .compute ⟨1⟩ (.add ⟨2⟩), .ret]
    let leftResult := Wired.executeAll .null left instructions
    let rightResult := Wired.executeAll Recording.peripheral right instructions
    left.machine.registers.read .flag ≠ right.machine.registers.read .flag ∧
      left.machine.EqualButRegister 15 right.machine ∧
      (∀ instruction ∈ instructions, 15 ∉ instruction.reads) ∧
      rightResult.fault? = some .stackUnderflow ∧
      leftResult.fault? = rightResult.fault? ∧
      leftResult.machine = rightResult.machine := by
  intro machine left right instructions leftResult rightResult
  have different :
      left.machine.registers.read .flag ≠ right.machine.registers.read .flag := by decide
  have same : left.machine.EqualButRegister 15 right.machine := by
    refine ⟨rfl, rfl, rfl, rfl, ?_⟩
    intro register visible
    exact (RegisterFile.read_write_other _ _ visible).trans
      (RegisterFile.read_write_other _ _ visible).symm
  have unread : ∀ instruction ∈ instructions, 15 ∉ instruction.reads := by decide
  have written : ∃ turn ∈ left.machine.turnsOf instructions,
      15 ∈ turn.instruction.writes := by decide +kernel
  have fault : rightResult.fault? = some .stackUnderflow := by decide +kernel
  rcases Wired.unread_register_has_no_influence .null Recording.peripheral same unread with
    ⟨faults, _, _, machines, _, _⟩
  exact ⟨different, same, unread, fault, faults, machines written⟩

end Chip8
