import Chip8.Machine.Operation

/-! # What operations can do

Only calls and returns work on the call stack, only they can fault among
instructions, and no instruction writes memory. A property that every load and
every instruction preserves is preserved by all operations. -/

namespace Chip8

/-- Whether an instruction works on the call stack. -/
def Instruction.usesStack : Instruction → Bool
  | .call _ => true
  | .ret => true
  | _ => false

theorem Instruction.usesStack_iff {instruction : Instruction} :
    instruction.usesStack = true ↔
      (∃ target, instruction = .call target) ∨ instruction = .ret := by
  cases instruction <;> simp [usesStack]

namespace Machine

/-! ## Single instructions -/

theorem execute_of_not_usesStack (machine : Machine) {instruction : Instruction}
    (plain : instruction.usesStack = false) :
    (machine.execute instruction).fault? = none ∧
      (machine.execute instruction).machine.stack = machine.stack := by
  cases instruction with
  | call target => simp [Instruction.usesStack] at plain
  | ret => simp [Instruction.usesStack] at plain
  | _ => simp [execute]

/-- A call or return fails without effect, or changes nothing of the machine but
the stack and the program counter. If it succeeds, it changes the depth. -/
theorem execute_of_usesStack (machine : Machine) {instruction : Instruction}
    (linking : instruction.usesStack = true) :
    (∃ fault, machine.execute instruction = .stopped machine fault) ∨
      ∃ (event : Event) (stack : CallStack) (pc : UInt16),
        stack.depth ≠ machine.stack.depth ∧
        machine.execute instruction =
          .reporting event (.quiet { machine with stack, pc }) := by
  rcases Instruction.usesStack_iff.mp linking with ⟨target, rfl⟩ | rfl
  · rcases Nat.lt_or_eq_of_le machine.stack.depth_le with room | full
    · rcases enterRoutine_of_room room target with ⟨stack, pushed, entered⟩
      have deeper := CallStack.depth_of_toList_append pushed
      exact .inr ⟨_, stack, _, by omega, entered⟩
    · exact .inl ⟨_, enterRoutine_of_full full target⟩
  · rcases Nat.eq_zero_or_pos machine.stack.depth with empty | occupied
    · exact .inl ⟨_, leaveRoutine_of_empty empty⟩
    · rcases leaveRoutine_of_occupied occupied with ⟨address, stack, popped, left⟩
      have deeper := CallStack.depth_of_toList_append popped
      exact .inr ⟨_, stack, address, by omega, left⟩

/-! What a call or a return does if it succeeds. -/

theorem execute_call_of_success {machine : Machine} {target : Address}
    (succeeded : (machine.execute (.call target)).fault? = none) :
    ∃ stack : CallStack,
      stack.toList = machine.stack.toList ++ [following machine.pc] ∧
      machine.execute (.call target) =
        .reporting (.called target (following machine.pc))
          (.quiet { machine with stack, pc := wrap target.word }) := by
  rcases Nat.lt_or_eq_of_le machine.stack.depth_le with room | full
  · exact enterRoutine_of_room room target
  · rw [execute, enterRoutine_of_full full] at succeeded
    cases succeeded

theorem execute_ret_of_success {machine : Machine}
    (succeeded : (machine.execute .ret).fault? = none) :
    ∃ (address : UInt16) (stack : CallStack),
      machine.stack.toList = stack.toList ++ [address] ∧
      machine.execute .ret =
        .reporting (.returned address)
          (.quiet { machine with stack, pc := address }) := by
  rcases Nat.eq_zero_or_pos machine.stack.depth with empty | occupied
  · rw [execute, leaveRoutine_of_empty empty] at succeeded
    cases succeeded
  · exact leaveRoutine_of_occupied occupied

@[simp] theorem memory_execute (machine : Machine) (instruction : Instruction) :
    (machine.execute instruction).machine.memory = machine.memory := by
  cases linking : instruction.usesStack with
  | true =>
      rcases machine.execute_of_usesStack linking with
        ⟨fault, stopped⟩ | ⟨event, stack, pc, _, moved⟩
      · rw [stopped]
        rfl
      · rw [moved]
        rfl
  | false => cases instruction <;> simp_all [execute, Instruction.usesStack]

theorem memory_step (machine : Machine) : machine.step.machine.memory = machine.memory := by
  cases fetched : machine.fetch with
  | error fault =>
      rw [step_of_unfetched fetched]
      rfl
  | ok opcode =>
      rw [step_of_fetched fetched]
      exact machine.memory_execute _

theorem memory_executeAll (machine : Machine) (instructions : List Instruction) :
    (machine.executeAll instructions).machine.memory = machine.memory := by
  induction instructions generalizing machine with
  | nil => rfl
  | cons instruction rest induction =>
      rw [executeAll]
      cases faulted : (machine.execute instruction).fault? with
      | some fault => rw [Outcome.andThen_of_fault faulted, memory_execute]
      | none =>
          rw [Outcome.andThen_of_success faulted]
          exact (induction _).trans (machine.memory_execute instruction)

theorem executeAll_append (machine : Machine) (first second : List Instruction) :
    machine.executeAll (first ++ second) =
      (machine.executeAll first).andThen fun next => next.executeAll second := by
  induction first generalizing machine with
  | nil => rfl
  | cons instruction rest induction =>
      rw [List.cons_append, executeAll, executeAll, Outcome.andThen_assoc]
      simp only [induction]

/-- A fault leaves no trace. -/
theorem execute_eq_stopped {machine : Machine} {instruction : Instruction}
    {fault : Fault} (faulted : (machine.execute instruction).fault? = some fault) :
    machine.execute instruction = .stopped machine fault := by
  cases linking : instruction.usesStack with
  | true =>
      rcases machine.execute_of_usesStack linking with
        ⟨other, stopped⟩ | ⟨event, stack, pc, _, moved⟩
      · rw [stopped] at faulted ⊢
        cases faulted
        rfl
      · simp [moved] at faulted
  | false => simp [machine.execute_of_not_usesStack linking] at faulted

/-! ## Invariants -/

/-- A property that a load and an instruction preserve. -/
structure Invariant (property : Machine → Prop) : Prop where
  load : ∀ (machine : Machine) (program : List UInt8),
    property machine → property (machine.load program).machine
  execute : ∀ (machine : Machine) (instruction : Instruction),
    property machine → property (machine.execute instruction).machine

namespace Invariant

variable {property : Machine → Prop} {machine : Machine}

theorem step (invariant : Invariant property) (holds : property machine) :
    property machine.step.machine := by
  cases fetched : machine.fetch with
  | error fault =>
      rw [step_of_unfetched fetched]
      exact holds
  | ok opcode =>
      rw [step_of_fetched fetched]
      exact invariant.execute machine _ holds

theorem executeAll (invariant : Invariant property) (holds : property machine)
    (instructions : List Instruction) :
    property (machine.executeAll instructions).machine := by
  induction instructions generalizing machine with
  | nil => exact holds
  | cons instruction rest induction =>
      have next := invariant.execute machine instruction holds
      rw [Machine.executeAll]
      cases faulted : (machine.execute instruction).fault? with
      | some fault =>
          rw [Outcome.andThen_of_fault faulted]
          exact next
      | none =>
          rw [Outcome.andThen_of_success faulted]
          exact induction next

theorem perform (invariant : Invariant property) (holds : property machine)
    (operation : Operation) : property (machine.perform operation).machine := by
  cases operation with
  | load program => exact invariant.load machine program holds
  | step => exact invariant.step holds
  | execute instruction => exact invariant.execute machine instruction holds
  | executeAll instructions => exact invariant.executeAll holds instructions

theorem performAll (invariant : Invariant property) (holds : property machine)
    (operations : List Operation) : property (machine.performAll operations) := by
  induction operations generalizing machine with
  | nil => exact holds
  | cons operation rest induction =>
      exact induction (invariant.perform holds operation)

end Invariant

end Machine

end Chip8
