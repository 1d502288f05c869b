import Chip8.Console
import Chip8.Proofs.Bounds
import Chip8.Proofs.Move

/-! # Faults

A machine faults at a call on a full stack, at a return on an empty one, at an
opcode that reaches past the last cell, and at a program that does not fit, and
nowhere else. A fault leaves nothing behind that would let the next attempt go
another way. -/

namespace Chip8

universe u

/-! ## Opcodes of calls and returns -/

namespace Instruction

theorem not_usesStack_decodeRegisters (opcode : Opcode) :
    (decodeRegisters opcode).usesStack = false := by
  unfold decodeRegisters
  split <;> rfl

theorem not_usesStack_decodeKeyboard (opcode : Opcode) :
    (decodeKeyboard opcode).usesStack = false := by
  unfold decodeKeyboard
  split <;> rfl

theorem not_usesStack_decodeDevice (opcode : Opcode) :
    (decodeDevice opcode).usesStack = false := by
  unfold decodeDevice
  split <;> rfl

theorem not_usesStack_decode {opcode : Opcode} (noSystem : opcode.family ≠ 0)
    (noCall : opcode.family ≠ 2) : (decode opcode).usesStack = false := by
  unfold decode
  split
  case h_1 system => exact absurd system noSystem
  case h_3 calls => exact absurd calls noCall
  -- Families 5 and 9 look at one more nibble; 8, E and F have decoders of their own.
  case h_6 => dsimp only; split <;> rfl
  case h_10 => dsimp only; split <;> rfl
  case h_9 => exact not_usesStack_decodeRegisters opcode
  case h_15 => exact not_usesStack_decodeKeyboard opcode
  case h_16 => exact not_usesStack_decodeDevice opcode
  all_goals rfl

theorem family_of_usesStack {opcode : Opcode}
    (linking : (decode opcode).usesStack = true) :
    opcode.family = 0 ∨ opcode.family = 2 := by
  by_cases system : opcode.family = 0
  · exact .inl system
  · by_cases calls : opcode.family = 2
    · exact .inr calls
    · rw [not_usesStack_decode system calls] at linking
      cases linking

theorem decode_of_family_zero {opcode : Opcode} (system : opcode.family = 0) :
    decode opcode = decodeSystem opcode.nnn := by
  simp only [decode, system]

theorem decode_of_family_two {opcode : Opcode} (calls : opcode.family = 2) :
    decode opcode = .call ⟨opcode.nnn⟩ := by
  simp only [decode, calls]

theorem decodeSystem_ne_call (address : UInt16) (target : Address) :
    decodeSystem address ≠ .call target := by
  unfold decodeSystem
  split <;> simp

theorem decodeSystem_eq_ret_iff {address : UInt16} :
    decodeSystem address = .ret ↔ address = 0x0EE := by
  unfold decodeSystem
  split <;> simp_all

/-- The calls are the opcodes `2NNN`. -/
theorem decode_eq_call_iff {opcode : Opcode} :
    (∃ target, decode opcode = .call target) ↔ opcode.word.toNat / 0x1000 = 2 := by
  have family : opcode.word.toNat / 0x1000 = 2 ↔ opcode.family = 2 := by
    rw [← opcode.toNat_family]
    exact @UInt8.toNat_inj opcode.family 2
  rw [family]
  constructor
  · rintro ⟨target, calls⟩
    have linking : (decode opcode).usesStack = true := by
      rw [calls]
      rfl
    rcases family_of_usesStack linking with system | two
    · rw [decode_of_family_zero system] at calls
      exact absurd calls (decodeSystem_ne_call _ _)
    · exact two
  · intro two
    exact ⟨_, decode_of_family_two two⟩

/-- The only return is the opcode `00EE`. -/
theorem decode_eq_ret_iff {opcode : Opcode} :
    decode opcode = .ret ↔ opcode.word.toNat = 0x00EE := by
  have family := opcode.toNat_family
  have operand := opcode.toNat_nnn
  constructor
  · intro returns
    have linking : (decode opcode).usesStack = true := by
      rw [returns]
      rfl
    rcases family_of_usesStack linking with system | two
    · rw [decode_of_family_zero system, decodeSystem_eq_ret_iff] at returns
      rw [system] at family
      rw [returns] at operand
      simp only [UInt8.reduceToNat, UInt16.reduceToNat] at family operand
      omega
    · rw [decode_of_family_two two] at returns
      cases returns
  · intro value
    have system : opcode.family = 0 := UInt8.toNat_inj.mp (by rw [family, value]; rfl)
    have returns : opcode.nnn = 0x0EE := UInt16.toNat_inj.mp (by rw [operand, value]; rfl)
    rw [decode_of_family_zero system, decodeSystem_eq_ret_iff, returns]

end Instruction

namespace Machine

/-! ## When operations fault -/

/-- The value of the two bytes at the program counter, the first one high. -/
def upcomingWord (machine : Machine) : Nat :=
  256 * (machine.memory.read machine.pc.toNat).toNat +
    (machine.memory.read (machine.pc.toNat + 1)).toNat

theorem fault?_execute_iff {machine : Machine} {instruction : Instruction}
    {fault : Fault} :
    (machine.execute instruction).fault? = some fault ↔
      (∃ target, instruction = .call target) ∧ machine.stack.depth = 16 ∧
          fault = .stackOverflow (following machine.pc) ∨
        instruction = .ret ∧ machine.stack.depth = 0 ∧ fault = .stackUnderflow := by
  cases linking : instruction.usesStack with
  | false =>
      rw [(machine.execute_of_not_usesStack linking).1]
      constructor
      · intro faulted
        cases faulted
      · rintro (⟨⟨target, rfl⟩, _⟩ | ⟨rfl, _⟩) <;> cases linking
  | true =>
      rcases Instruction.usesStack_iff.mp linking with ⟨target, rfl⟩ | rfl
      · rw [execute]
        rcases Nat.lt_or_eq_of_le machine.stack.depth_le with room | full
        · rcases enterRoutine_of_room room target with ⟨stack, _, entered⟩
          have notFull : machine.stack.depth ≠ 16 := by omega
          simp [entered, notFull]
        · simp [enterRoutine_of_full full, full, eq_comm]
      · rw [execute]
        rcases Nat.eq_zero_or_pos machine.stack.depth with empty | occupied
        · simp [leaveRoutine_of_empty empty, empty, eq_comm]
        · rcases leaveRoutine_of_occupied occupied with ⟨address, stack, _, left⟩
          have notEmpty : machine.stack.depth ≠ 0 := by omega
          simp [left, notEmpty]

theorem fault?_load_iff {machine : Machine} {program : List UInt8} {fault : Fault} :
    (machine.load program).fault? = some fault ↔
      3584 < program.length ∧ fault = .outOfBounds 0x200 program.length := by
  have start : programStart.toNat = 0x200 := rfl
  rcases Nat.lt_or_ge memorySize (programStart.toNat + program.length) with
    excess | fitting
  · have long : 3584 < program.length := by rw [memorySize, start] at excess; omega
    simp [load_of_excess machine excess, start, long, eq_comm]
  · have short : ¬ 3584 < program.length := by rw [memorySize, start] at fitting; omega
    simp [load_of_fitting machine fitting, short]

theorem fault?_step_iff {machine : Machine} (bounded : machine.Bounded) {fault : Fault} :
    machine.step.fault? = some fault ↔
      machine.pc.toNat = 0xFFF ∧ fault = .outOfBounds 0xFFF 2 ∨
      machine.pc.toNat < 0xFFF ∧ machine.upcomingWord / 0x1000 = 2 ∧
        machine.stack.depth = 16 ∧ fault = .stackOverflow (following machine.pc) ∨
      machine.pc.toNat < 0xFFF ∧ machine.upcomingWord = 0x00EE ∧
        machine.stack.depth = 0 ∧ fault = .stackUnderflow := by
  have inMemory := bounded.pc_lt
  rw [memorySize] at inMemory
  rcases Nat.lt_or_ge (machine.pc.toNat + 1) memorySize with inside | outside
  · have below : machine.pc.toNat < 0xFFF := by rw [memorySize] at inside; omega
    have notLast : machine.pc.toNat ≠ 0xFFF := by omega
    have fetched := fetch_of_inside inside
    rw [step_of_fetched fetched, Outcome.fault?_reporting, fault?_execute_iff,
      Instruction.decode_eq_call_iff, Instruction.decode_eq_ret_iff,
      Opcode.toNat_word_ofBytes]
    simp only [notLast, below, false_and, true_and, false_or, upcomingWord]
  · have last : machine.pc.toNat = 0xFFF := by rw [memorySize] at outside; omega
    rw [step_of_unfetched (fetch_of_outside outside)]
    simp [last, eq_comm]

/-! ## What a fault leaves behind -/

theorem load_eq_stopped {machine : Machine} {program : List UInt8} {fault : Fault}
    (faulted : (machine.load program).fault? = some fault) :
    machine.load program = .stopped machine fault := by
  rw [load] at faulted ⊢
  split at faulted
  · cases faulted
  · rw [if_neg ‹_›]
    cases faulted
    rfl

/-- The fetch before a fault is reported, unless it is the fetch that faults. -/
theorem step_eq_stopped {machine : Machine} {fault : Fault}
    (faulted : machine.step.fault? = some fault) :
    machine.step = .stopped machine fault ∨
      ∃ opcode,
        machine.step = .reporting (.fetched machine.pc opcode) (.stopped machine fault) := by
  cases fetched : machine.fetch with
  | error other =>
      rw [step_of_unfetched fetched] at faulted ⊢
      cases faulted
      exact .inl rfl
  | ok opcode =>
      rw [step_of_fetched fetched] at faulted ⊢
      exact .inr ⟨opcode, congrArg _ (execute_eq_stopped faulted)⟩

/-- A fault leaves the machine as it is, sends no signal and reports nothing but
perhaps the fetch before it. -/
theorem move_of_fault {machine : Machine} {move : Move} {fault : Fault}
    (faulted : (machine.move move).fault? = some fault) :
    (machine.move move).machine = machine ∧ (machine.move move).signals = [] ∧
      ∀ event ∈ (machine.move move).events, event.level = .trace := by
  cases move with
  | load program =>
      rw [show machine.move (.load program) = .stopped machine fault from
        load_eq_stopped faulted]
      simp
  | step =>
      rcases step_eq_stopped faulted with stopped | ⟨opcode, stopped⟩
      · rw [show machine.move .step = _ from stopped]
        simp
      · rw [show machine.move .step = _ from stopped]
        simp [Event.level]
  | execute instruction =>
      rw [show machine.move (.execute instruction) = .stopped machine fault from
        execute_eq_stopped faulted]
      simp

/-- Attempts that do not change the machine all end alike. -/
theorem outcomes_replicate {machine : Machine} {operation : Operation}
    (same : (machine.perform operation).machine = machine) (count : Nat) :
    machine.outcomes (List.replicate count operation) =
      List.replicate count (machine.perform operation) := by
  induction count with
  | zero => rfl
  | succ count induction =>
      rw [List.replicate_succ, List.replicate_succ, outcomes, same, induction]

end Machine

namespace Console

variable {State : Type u}

theorem performAll_replicate {peripheral : Peripheral State} {console : Console State}
    {operation : Operation}
    (same : console.absorb peripheral (console.machine.perform operation) = console)
    (count : Nat) :
    console.performAll peripheral (List.replicate count operation) = console := by
  induction count with
  | zero => rfl
  | succ count induction => rw [List.replicate_succ, performAll, same, induction]

/-- After a load, a step or an instruction that faults, machine and peripheral
are what they were, and nothing is reported above the level of traces. However
often the same is tried again, the outcome is the same. -/
theorem unchanged_of_fault (peripheral : Peripheral State) {console : Console State}
    {move : Move} {fault : Fault}
    (faulted : (console.machine.move move).fault? = some fault) :
    let outcome := console.machine.move move
    let attempts (count : Nat) := List.replicate count move.operation
    console.absorb peripheral outcome = console ∧
      (∀ event ∈ outcome.events, event.level ≠ .debug ∧ event.level ≠ .warn) ∧
      ∀ count,
        console.machine.outcomes (attempts count) = List.replicate count outcome ∧
          console.performAll peripheral (attempts count) = console := by
  intro outcome attempts
  rcases Machine.move_of_fault faulted with ⟨sameMachine, silent, quiet⟩
  have same : console.absorb peripheral outcome = console := by
    rw [absorb, sameMachine, silent, Peripheral.receiveAll_nil]
  refine ⟨same, ?_, ?_⟩
  · intro event member
    rw [quiet event member]
    exact ⟨by decide, by decide⟩
  · intro count
    exact ⟨Machine.outcomes_replicate sameMachine count, performAll_replicate same count⟩

/-- A call at a full stack, fetched from memory, before a recording peripheral. -/
theorem unchanged_of_fault_of_full_stack :
    let calls := List.replicate 16 (Instruction.call ⟨0x200⟩)
    let console := (initial Recording.empty).performAll Recording.peripheral
      [.load [0x22, 0x00], .execute .clearScreen, .executeAll calls]
    let outcome := console.machine.step
    outcome.fault? = some (.stackOverflow 0x202) ∧
      console.absorb Recording.peripheral outcome = console ∧
      console.machine.outcomes [.step, .step] = [outcome, outcome] := by
  intro calls console outcome
  have faulted : (console.machine.move .step).fault? = some (.stackOverflow 0x202) := by
    decide +kernel
  rcases unchanged_of_fault Recording.peripheral faulted with ⟨same, _, again⟩
  exact ⟨faulted, same, (again 2).1⟩

/-- Whatever a machine has been through, a step faults exactly at the last cell,
before a call at a full stack and before a return at an empty one; an instruction
that is given to it exactly in the latter two cases; and a load exactly where the
program is longer than the place for programs. -/
theorem faults_iff_of_performAll (peripheral : Peripheral State) (state : State)
    (operations : List Operation) :
    let machine := ((initial state).performAll peripheral operations).machine
    let pc := machine.pc.toNat
    let word := 256 * (machine.memory.read pc).toNat + (machine.memory.read (pc + 1)).toNat
    let depth := machine.stack.depth
    let overflow : Fault := .stackOverflow (.ofNat ((pc + 2) % 4096))
    (∀ fault, machine.step.fault? = some fault ↔
      pc = 0xFFF ∧ fault = .outOfBounds 0xFFF 2 ∨
      pc < 0xFFF ∧ word / 0x1000 = 2 ∧ depth = 16 ∧ fault = overflow ∨
      pc < 0xFFF ∧ word = 0x00EE ∧ depth = 0 ∧ fault = .stackUnderflow) ∧
    (∀ instruction fault, (machine.execute instruction).fault? = some fault ↔
      (∃ target, instruction = .call target) ∧ depth = 16 ∧ fault = overflow ∨
      instruction = .ret ∧ depth = 0 ∧ fault = .stackUnderflow) ∧
    (∀ program fault, (machine.load program).fault? = some fault ↔
      3584 < program.length ∧ fault = .outOfBounds 0x200 program.length) := by
  intro machine pc word depth overflow
  have bounded : machine.Bounded := bounded_performAll peripheral state operations
  have saved : overflow = .stackOverflow (following machine.pc) := by
    rw [following_eq_ofNat]
  rw [saved]
  exact ⟨fun fault => Machine.fault?_step_iff bounded,
    fun instruction fault => Machine.fault?_execute_iff,
    fun program fault => Machine.fault?_load_iff⟩

end Console

end Chip8
