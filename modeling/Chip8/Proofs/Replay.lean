import Chip8.Console
import Chip8.Proofs.Execution
import Chip8.Proofs.Readers

/-! # Replaying a run from its log

A run records every opcode that it fetches, in words. The instructions that are
read from these records, executed as a list, do all over again what the run did:
the log of a run is a program for the list executor. -/

namespace Chip8

universe u

/-! ## Records of fetched opcodes -/

def Event.isTrace (event : Event) : Bool := event.level = .trace

/-- What the text of a fetch record shows. -/
structure Fetch where
  pc : UInt16
  opcode : Opcode
deriving DecidableEq

namespace Fetch

open Text Text.Reader

def reader : Reader Fetch := do
  let pc ← wordBefore ": "
  (fun word => ⟨pc, ⟨word⟩⟩) <$> wordBefore " "

/-- The name of the instruction, which follows the opcode, is not read. -/
def ofMessage? (message : String) : Option Fetch := reader.run' message.toList

example : ofMessage? "0x200: 0x7101 IncRegByConst(Reg(1), Const(1))" =
    some ⟨0x200, ⟨0x7101⟩⟩ := by decide

theorem reads_reader (pc : UInt16) (opcode : Opcode) :
    Reads reader
      (hexLiteral 3 pc.toNat ++ ": " ++ (hexLiteral 4 opcode.word.toNat ++ " "))
      ⟨pc, opcode⟩ := by
  have pcEnds : EndsNumber ": " := ⟨':', rfl, by decide⟩
  have wordEnds : EndsNumber " " := ⟨' ', rfl, by decide⟩
  exact (reads_wordBefore pcEnds 3 pc).bind ((reads_wordBefore wordEnds 4 _).map _)

theorem ofMessage?_fetched (pc : UInt16) (opcode : Opcode) :
    ofMessage? (Event.fetched pc opcode).message = some ⟨pc, opcode⟩ := by
  have text : (Event.fetched pc opcode).message =
      hexLiteral 3 pc.toNat ++ ": " ++ (hexLiteral 4 opcode.word.toNat ++ " ") ++
        (Instruction.decode opcode).text := by
    change hexLiteral 3 pc.toNat ++ ": " ++ hexLiteral 4 opcode.word.toNat ++ " " ++ _ = _
    simp only [String.append_assoc]
  rw [ofMessage?, StateT.run'_eq, text, String.toList_append, reads_reader]
  rfl

end Fetch

/-- The instruction whose opcode a fetch record shows. -/
def Event.instruction? (event : Event) : Option Instruction :=
  if event.isTrace then
    (Fetch.ofMessage? event.message).map fun fetch => .decode fetch.opcode
  else
    none

theorem Event.instruction?_fetched (pc : UInt16) (opcode : Opcode) :
    (fetched pc opcode).instruction? = some (.decode opcode) := by
  have traced : (fetched pc opcode).isTrace = true := rfl
  rw [instruction?, if_pos traced, Fetch.ofMessage?_fetched]
  rfl

/-- The instructions that a log shows, in order. -/
def journal (events : List Event) : List Instruction :=
  events.filterMap Event.instruction?

theorem journal_fetched (pc : UInt16) (opcode : Opcode) (events : List Event) :
    journal (.fetched pc opcode :: events) = .decode opcode :: journal events :=
  List.filterMap_cons_some (Event.instruction?_fetched pc opcode)

theorem journal_append (first second : List Event) :
    journal (first ++ second) = journal first ++ journal second :=
  List.filterMap_append

def Fault.concernsStack : Fault → Bool
  | .stackOverflow _ => true
  | .stackUnderflow => true
  | .outOfBounds _ _ => false

/-- What remains of an outcome when nothing is fetched from memory: neither the
records of fetches nor faults of fetches. -/
def Outcome.withoutFetches (outcome : Outcome) : Outcome :=
  { outcome with
    fault? := outcome.fault?.filter Fault.concernsStack
    events := outcome.events.filter fun event => !event.isTrace }

theorem Outcome.withoutFetches_fetched (pc : UInt16) (opcode : Opcode)
    (outcome : Outcome) :
    (outcome.reporting (.fetched pc opcode)).withoutFetches = outcome.withoutFetches :=
  rfl

namespace Machine

/-- The record of a fetch from this machine, if both bytes lie in memory. -/
def fetchRecord? (machine : Machine) : Option Event :=
  let location := machine.pc.toNat
  if location + 1 < memorySize then
    some (.fetched machine.pc
      (.ofBytes (machine.memory.read location) (machine.memory.read (location + 1))))
  else
    none

/-- The machines from which a run takes its steps. A step that faults is the
last one. -/
def attempts (machine : Machine) (count : Nat) : List Machine :=
  (machine :: machine.trail count).take count

theorem attempts_succ (machine : Machine) (count : Nat) :
    machine.attempts (count + 1) =
      machine ::
        match machine.step.fault? with
        | some _ => []
        | none => machine.step.machine.attempts count := by
  rw [attempts, trail_succ, List.take_succ_cons]
  cases machine.step.fault? with
  | some fault => rw [List.take_nil]
  | none => rfl

/-! ## One instruction -/

/-- Executing is silent about fetches, and its faults are those of the stack. -/
theorem withoutFetches_execute (machine : Machine) (instruction : Instruction) :
    (machine.execute instruction).withoutFetches = machine.execute instruction := by
  cases instruction with
  | call target =>
      rw [execute, enterRoutine]
      cases machine.stack.push? (following machine.pc) <;> rfl
  | ret =>
      rw [execute, leaveRoutine]
      cases machine.stack.pop? <;> rfl
  | _ => rfl

theorem filter_not_isTrace_execute (machine : Machine) (instruction : Instruction) :
    (machine.execute instruction).events.filter (fun event => !event.isTrace) =
      (machine.execute instruction).events :=
  congrArg Outcome.events (machine.withoutFetches_execute instruction)

theorem not_isTrace_of_mem_execute {machine : Machine} {instruction : Instruction}
    {event : Event} (member : event ∈ (machine.execute instruction).events) :
    event.isTrace = false := by
  rw [← machine.filter_not_isTrace_execute instruction] at member
  simpa using (List.mem_filter.mp member).2

theorem filter_isTrace_execute (machine : Machine) (instruction : Instruction) :
    (machine.execute instruction).events.filter Event.isTrace = [] := by
  apply List.filter_eq_nil_iff.mpr
  intro event member
  simp [not_isTrace_of_mem_execute member]

@[simp] theorem journal_execute (machine : Machine) (instruction : Instruction) :
    journal (machine.execute instruction).events = [] := by
  apply List.filterMap_eq_nil_iff.mpr
  intro event member
  rw [Event.instruction?, not_isTrace_of_mem_execute member]
  rfl

/-! ## One step -/

theorem fetchRecord?_of_fetched {machine : Machine} {opcode : Opcode}
    (fetched : machine.fetch = .ok opcode) :
    machine.fetchRecord? = some (.fetched machine.pc opcode) := by
  rcases Nat.lt_or_ge (machine.pc.toNat + 1) memorySize with inside | outside
  · rw [fetch_of_inside inside] at fetched
    cases fetched
    exact if_pos inside
  · simp [fetch_of_outside outside] at fetched

/-- The text of the record shows where the opcode was found, and its bytes. -/
theorem ofMessage?_of_fetchRecord? {machine : Machine} {record : Event}
    (recorded : machine.fetchRecord? = some record) :
    ∃ opcode, Fetch.ofMessage? record.message = some ⟨machine.pc, opcode⟩ ∧
      opcode.word.toNat = 256 * (machine.memory.read machine.pc.toNat).toNat +
        (machine.memory.read (machine.pc.toNat + 1)).toNat := by
  simp only [fetchRecord?, Option.ite_none_right_eq_some, Option.some.injEq] at recorded
  rcases recorded with ⟨_, rfl⟩
  exact ⟨_, Fetch.ofMessage?_fetched _ _, Opcode.toNat_word_ofBytes _ _⟩

theorem outside_of_unfetched {machine : Machine} {fault : Fault}
    (unfetched : machine.fetch = .error fault) :
    memorySize ≤ machine.pc.toNat + 1 ∧ fault = .outOfBounds machine.pc.toNat 2 := by
  rcases Nat.lt_or_ge (machine.pc.toNat + 1) memorySize with inside | outside
  · simp [fetch_of_inside inside] at unfetched
  · rw [fetch_of_outside outside] at unfetched
    cases unfetched
    exact ⟨outside, rfl⟩

theorem filter_isTrace_step (machine : Machine) :
    machine.step.events.filter Event.isTrace = machine.fetchRecord?.toList := by
  cases fetched : machine.fetch with
  | error fault =>
      have outside := (outside_of_unfetched fetched).1
      rw [step_of_unfetched fetched, fetchRecord?, if_neg (Nat.not_lt_of_le outside)]
      rfl
  | ok opcode =>
      rw [step_of_fetched fetched, fetchRecord?_of_fetched fetched,
        Outcome.events_reporting, List.filter_cons_of_pos rfl, filter_isTrace_execute]
      rfl

/-! ## Runs -/

theorem executeAll_journal_run (machine : Machine) (count : Nat) :
    machine.executeAll (journal (machine.run count).events) =
      (machine.run count).withoutFetches := by
  induction count generalizing machine with
  | zero => rfl
  | succ count induction =>
      cases fetched : machine.fetch with
      | error fault =>
          rw [run_succ_of_unfetched fetched, (outside_of_unfetched fetched).2]
          rfl
      | ok opcode =>
          rw [run_succ_of_fetched fetched, Outcome.events_reporting, journal_fetched,
            Outcome.withoutFetches_fetched, executeAll]
          cases faulted : (machine.execute (.decode opcode)).fault? with
          | some fault =>
              rw [Outcome.andThen_of_fault faulted, Outcome.andThen_of_fault faulted,
                machine.withoutFetches_execute]
          | none =>
              rw [Outcome.andThen_of_success faulted, Outcome.andThen_of_success faulted,
                journal_append, journal_execute, List.nil_append, induction]
              simp only [Outcome.withoutFetches, List.filter_append,
                filter_not_isTrace_execute]

theorem filter_isTrace_run (machine : Machine) (count : Nat) :
    (machine.run count).events.filter Event.isTrace =
      (machine.attempts count).filterMap fetchRecord? := by
  induction count generalizing machine with
  | zero => rfl
  | succ count induction =>
      rw [run_succ, attempts_succ]
      cases faulted : machine.step.fault? with
      | some fault =>
          rw [Outcome.andThen_of_fault faulted, filter_isTrace_step]
          cases recorded : machine.fetchRecord? <;> simp [recorded]
      | none =>
          rw [Outcome.andThen_of_success faulted, List.filter_append,
            filter_isTrace_step, induction]
          cases recorded : machine.fetchRecord? <;> simp [recorded]

/-- Of the instructions in the log, all were executed with success but the one
that brought the fault of the stack, if there was one. -/
theorem length_journal_run (machine : Machine) (count : Nat) :
    (journal (machine.run count).events).length =
      (machine.trail count).length +
        (machine.run count).withoutFetches.fault?.toList.length := by
  induction count generalizing machine with
  | zero => rfl
  | succ count induction =>
      rw [trail_succ]
      cases fetched : machine.fetch with
      | error fault =>
          rw [run_succ_of_unfetched fetched, step_of_unfetched fetched,
            (outside_of_unfetched fetched).2]
          rfl
      | ok opcode =>
          rw [run_succ_of_fetched fetched, step_of_fetched fetched,
            Outcome.events_reporting, journal_fetched, Outcome.withoutFetches_fetched,
            Outcome.fault?_reporting, Outcome.machine_reporting]
          cases faulted : (machine.execute (.decode opcode)).fault? with
          | some fault =>
              rw [Outcome.andThen_of_fault faulted, machine.withoutFetches_execute,
                journal_execute, faulted]
              rfl
          | none =>
              rw [Outcome.andThen_of_success faulted, journal_append, journal_execute,
                List.nil_append, List.length_cons, List.length_cons, induction]
              simp only [Outcome.withoutFetches]
              omega

/-- The log of a run, executed as a list of instructions, leads to the machine
and the peripheral of the run, reports what the run reported besides its
fetches, and ends with the fault that the run met at the stack. There is one
fetch record for each step whose opcode lies in memory, and its text shows where
the opcode was found and both of its bytes; a step without opcode has no effect
at all. -/
theorem run_replayed {State : Type u} (peripheral : Peripheral State)
    (console : Console State) (count : Nat) :
    let outcome := console.machine.run count
    let replayed := console.machine.executeAll (journal outcome.events)
    console.absorb peripheral replayed = console.absorb peripheral outcome ∧
      replayed.fault? = outcome.fault?.filter Fault.concernsStack ∧
      replayed.events = outcome.events.filter (fun event => !event.isTrace) ∧
      (journal outcome.events).length =
        (console.machine.trail count).length + replayed.fault?.toList.length ∧
      outcome.events.filter Event.isTrace =
        (console.machine.attempts count).filterMap fetchRecord? ∧
      (∀ machine ∈ console.machine.attempts count, ∀ record,
        machine.fetchRecord? = some record →
          ∃ opcode, Fetch.ofMessage? record.message = some ⟨machine.pc, opcode⟩ ∧
            opcode.word.toNat = 256 * (machine.memory.read machine.pc.toNat).toNat +
              (machine.memory.read (machine.pc.toNat + 1)).toNat) ∧
      ∀ machine ∈ console.machine.attempts count, machine.fetchRecord? = none →
        machine.step = .stopped machine (.outOfBounds machine.pc.toNat 2) := by
  intro outcome replayed
  have same : replayed = outcome.withoutFetches :=
    console.machine.executeAll_journal_run count
  refine ⟨?_, ?_, ?_, ?_, ?_, fun _ _ _ => ofMessage?_of_fetchRecord?, ?_⟩
  · rw [same]
    rfl
  · rw [same]
    rfl
  · rw [same]
    rfl
  · rw [same]
    exact console.machine.length_journal_run count
  · exact console.machine.filter_isTrace_run count
  · intro machine _ unrecorded
    cases fetched : machine.fetch with
    | ok opcode => simp [fetchRecord?_of_fetched fetched] at unrecorded
    | error fault =>
        rw [step_of_unfetched fetched, (outside_of_unfetched fetched).2]

end Machine

end Chip8
