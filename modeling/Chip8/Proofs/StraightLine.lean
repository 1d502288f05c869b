import Chip8.Instruction.Encode
import Chip8.Proofs.Encoding
import Chip8.Proofs.Move
import Chip8.Proofs.Replay

/-! # Assembled programs

A program without jumps, calls, returns and skips that is assembled into memory
runs as it is written: every step fetches the next instruction of the list, and
in the end everything is as if the list had been executed directly. -/

namespace Chip8

universe u

/-- Whether the next instruction always follows this one. -/
def Instruction.isStraight : Instruction → Bool
  | .ret => false
  | .jump _ => false
  | .call _ => false
  | .jumpOffset _ => false
  | .skipIf _ => false
  | _ => true

theorem Machine.execute_of_isStraight (machine : Machine) {instruction : Instruction}
    (straight : instruction.isStraight = true) :
    (machine.execute instruction).fault? = none ∧
      (machine.execute instruction).machine.pc = following machine.pc := by
  cases instruction with
  | ret => cases straight
  | jump target => cases straight
  | call target => cases straight
  | jumpOffset target => cases straight
  | skipIf condition => cases straight
  | _ => exact ⟨rfl, rfl⟩

/-! ## Programs in memory -/

namespace Memory

/-- The opcodes of the program lie in memory from this location on. -/
def Holds (memory : Memory) (location : Nat) : List Instruction → Prop
  | [] => True
  | instruction :: rest =>
      memory.opcode? location = some instruction.encode ∧
        memory.Holds (location + 2) rest

theorem holds_write_assemble (memory : Memory) {start : Nat} {program : List Instruction}
    (fitting : start + 2 * program.length ≤ memorySize) :
    (memory.write start (assemble program)).Holds start program := by
  induction program generalizing memory start with
  | nil => trivial
  | cons instruction rest induction =>
      rw [List.length_cons] at fitting
      have inside : start + 1 < memorySize := by omega
      have here : start < memorySize := by omega
      have bytes : assemble (instruction :: rest) =
          instruction.encode.high :: instruction.encode.low :: assemble rest := rfl
      constructor
      · rw [opcode?_eq_some inside, read_write, read_write, bytes]
        simp [inside, here, Opcode.ofBytes_high_low]
      · rw [bytes]
        exact induction _ (by omega)

/-- Only behind the last instruction may the program counter wrap around. -/
theorem Holds.following {memory : Memory} {pc : UInt16} {instruction : Instruction}
    {rest : List Instruction} (held : memory.Holds pc.toNat (instruction :: rest)) :
    memory.Holds (following pc).toNat rest := by
  cases rest with
  | nil => trivial
  | cons next others =>
      have found : memory.opcode? (pc.toNat + 2) = some next.encode := held.2.1
      have inside : pc.toNat + 2 + 1 < memorySize := by
        apply Nat.lt_of_not_le
        intro outside
        rw [opcode?_eq_none_iff.mpr outside] at found
        cases found
      have unwrapped : (Chip8.following pc).toNat = pc.toNat + 2 := by
        rw [memorySize] at inside
        rw [toNat_following]
        omega
      rw [unwrapped]
      exact held.2

end Memory

namespace Machine

/-- The machine stands before a program that runs straight through. -/
structure StandsBefore (machine : Machine) (program : List Instruction) : Prop where
  pc_lt : machine.pc.toNat < memorySize
  held : machine.memory.Holds machine.pc.toNat program
  encodable : ∀ instruction ∈ program, instruction.isEncodable = true
  straight : ∀ instruction ∈ program, instruction.isStraight = true

namespace StandsBefore

variable {machine : Machine} {instruction : Instruction} {program rest : List Instruction}

theorem fetch (ready : machine.StandsBefore (instruction :: rest)) :
    machine.fetch = .ok instruction.encode := by
  rw [Machine.fetch, ready.held.1]

theorem upcoming? (ready : machine.StandsBefore (instruction :: rest)) :
    machine.upcoming? = some instruction := by
  rw [upcoming?_eq_some_iff]
  exact ⟨_, ready.fetch, Instruction.decode_encode (ready.encodable _ (by simp))⟩

/-- One step executes the first instruction and stands before the rest. -/
theorem step (ready : machine.StandsBefore (instruction :: rest)) :
    machine.step.fault? = none ∧
      journal machine.step.events = [instruction] ∧
      machine.step.machine.pc = following machine.pc ∧
      machine.step.machine.StandsBefore rest := by
  have decoded : .decode instruction.encode = instruction :=
    Instruction.decode_encode (ready.encodable _ (by simp))
  rcases machine.execute_of_isStraight (ready.straight instruction (by simp)) with
    ⟨succeeded, pc⟩
  rw [step_of_fetched ready.fetch, decoded]
  refine ⟨succeeded, ?_, pc, ?_, ?_, ?_, ?_⟩
  · rw [Outcome.events_reporting, journal_fetched, journal_execute, decoded]
  · rw [Outcome.machine_reporting, pc]
    exact toNat_wrap_lt _
  · rw [Outcome.machine_reporting, memory_execute, pc]
    exact ready.held.following
  · exact fun other member => ready.encodable other (by simp [member])
  · exact fun other member => ready.straight other (by simp [member])

theorem run_succ (ready : machine.StandsBefore (instruction :: rest)) (count : Nat) :
    machine.run (count + 1) =
      { machine.step.machine.run count with
        events := machine.step.events ++ (machine.step.machine.run count).events
        signals := machine.step.signals ++ (machine.step.machine.run count).signals } := by
  rw [Machine.run_succ, Outcome.andThen_of_success ready.step.1]

/-- The instructions that the steps of the run decode are those of the program. -/
theorem upcoming?_run (ready : machine.StandsBefore program) {number : Nat}
    (below : number < program.length) :
    (machine.run number).machine.upcoming? = some program[number] ∧
      (machine.run (number + 1)).fault? = none := by
  induction program generalizing machine number with
  | nil => cases below
  | cons instruction rest induction =>
      rw [ready.run_succ number]
      cases number with
      | zero => exact ⟨ready.upcoming?, rfl⟩
      | succ number =>
          rw [ready.run_succ number]
          exact induction ready.step.2.2.2 (Nat.lt_of_succ_lt_succ below)

theorem run (ready : machine.StandsBefore program) :
    (machine.run program.length).fault? = none ∧
      journal (machine.run program.length).events = program ∧
      (machine.run program.length).machine.pc.toNat =
        (machine.pc.toNat + 2 * program.length) % 4096 := by
  induction program generalizing machine with
  | nil => exact ⟨rfl, rfl, (Nat.mod_eq_of_lt ready.pc_lt).symm⟩
  | cons instruction rest induction =>
      rcases ready.step with ⟨_, shown, pc, next⟩
      rcases induction next with ⟨succeeded, laterShown, laterPc⟩
      rw [List.length_cons, ready.run_succ]
      refine ⟨succeeded, ?_, ?_⟩
      · rw [journal_append, shown, laterShown]
        rfl
      · rw [laterPc, pc, toNat_following]
        omega

end StandsBefore

theorem standsBefore_of_load {program : List Instruction}
    (encodable : ∀ instruction ∈ program, instruction.isEncodable = true)
    (straight : ∀ instruction ∈ program, instruction.isStraight = true)
    (fitting : program.length ≤ 1792) :
    (Machine.initial.load (assemble program)).fault? = none ∧
      (Machine.initial.load (assemble program)).machine.pc = programStart ∧
      (Machine.initial.load (assemble program)).machine.StandsBefore program := by
  have length := length_assemble program
  have start : programStart.toNat = 0x200 := rfl
  have inside : programStart.toNat + (assemble program).length ≤ memorySize := by
    rw [start, length, memorySize]
    omega
  rw [load_of_fitting _ inside]
  have below : programStart.toNat < memorySize := by decide
  exact ⟨rfl, rfl, below, Memory.holds_write_assemble _ (length ▸ inside), encodable,
    straight⟩

end Machine

namespace Console

/-- An assembled program of at most 1792 instructions, as many as there is place
for, loads, and each of as many steps succeeds and decodes the instruction at
its position. Machine and peripheral end as if the machine had been given the
list of instructions instead, with the program counter behind the program. -/
theorem assembled_runs_as_written {State : Type u} (peripheral : Peripheral State)
    (state : State) {program : List Instruction}
    (encodable : ∀ instruction ∈ program, instruction.isEncodable = true)
    (straight : ∀ instruction ∈ program, instruction.isStraight = true)
    (fitting : program.length ≤ 1792) :
    let loading := Machine.initial.load (assemble program)
    let console := (initial state).absorb peripheral loading
    let ran := console.machine.run program.length
    let listed := console.machine.executeAll program
    loading.fault? = none ∧
      (∀ number (below : number < program.length),
        (console.machine.run number).machine.upcoming? = some program[number] ∧
          (console.machine.run (number + 1)).fault? = none) ∧
      ran.fault? = none ∧ listed.fault? = none ∧
      console.absorb peripheral ran = console.absorb peripheral listed ∧
      ran.machine.pc.toNat = (0x200 + 2 * program.length) % 4096 ∧
      (program.length = 1792 → ran.machine.pc = 0) := by
  intro loading console ran listed
  rcases Machine.standsBefore_of_load encodable straight fitting with
    ⟨loaded, start, placed⟩
  have ready : console.machine.StandsBefore program := placed
  have succeeded : ran.fault? = none := ready.run.1
  have shown : journal ran.events = program := ready.run.2.1
  have pc : ran.machine.pc.toNat = (0x200 + 2 * program.length) % 4096 := by
    rw [ready.run.2.2, show console.machine.pc = programStart from start]
    rfl
  have replayed : listed = ran.withoutFetches := by
    rw [← show console.machine.executeAll (journal ran.events) = ran.withoutFetches from
      console.machine.executeAll_journal_run _, shown]
  refine ⟨loaded, fun number below => ready.upcoming?_run below, succeeded, ?_, ?_, pc, ?_⟩
  · rw [replayed, Outcome.withoutFetches, succeeded]
    rfl
  · rw [replayed]
    rfl
  · intro full
    rw [full] at pc
    exact UInt16.toNat_inj.mp pc

/-- A program that fills memory: a sprite is drawn from the last cell, a request
and an opcode of no instruction follow, and the rest shifts the flag register. -/
theorem assembled_runs_as_written_to_the_last_cell :
    let program : List Instruction :=
      [.setIndex ⟨0xFFF⟩, .draw ⟨0xA⟩ ⟨0xF⟩ 5, .delegate (.machineRoutine ⟨0x123⟩),
        .unknown ⟨0x8AB9⟩] ++ List.replicate 1788 (.compute ⟨0xF⟩ .shiftLeft)
    let console := (initial Recording.empty).absorb Recording.peripheral
      (Machine.initial.load (assemble program))
    let ran := console.machine.run program.length
    program.length = 1792 ∧ ran.fault? = none ∧
      console.absorb Recording.peripheral ran =
        console.absorb Recording.peripheral (console.machine.executeAll program) ∧
      ran.machine.pc = 0 := by
  intro program console ran
  have length : program.length = 1792 := by
    rw [List.length_append, List.length_replicate]
    rfl
  have encodable : ∀ instruction ∈ program, instruction.isEncodable = true := by
    decide +kernel
  have straight : ∀ instruction ∈ program, instruction.isStraight = true := by
    decide +kernel
  -- From here on only these three facts about the program count.
  clear_value program
  rcases assembled_runs_as_written Recording.peripheral Recording.empty encodable straight
    (Nat.le_of_eq length) with ⟨_, _, succeeded, _, same, _, start⟩
  exact ⟨length, succeeded, same, start length⟩

end Console

end Chip8
