import Chip8.Proofs.Fetches
import Chip8.Proofs.Turns
import Chip8.Proofs.Wired

/-! # Loading before or after execution

A load writes memory and does nothing else, and instructions that are given as a
list read nothing of memory but the rows of sprites. So a program may as well be
loaded after them as before, also where it does not fit or one of them faults. -/

namespace Chip8

universe u

def Instruction.isDraw : Instruction → Bool
  | .draw _ _ _ => true
  | _ => false

/-- The other outcome is the given one with this memory in its machine. Its sprites
are of the same size and at the same place, but their rows may differ. -/
structure Outcome.SameOver (memory : Memory) (given other : Outcome) : Prop where
  machine : other.machine = { given.machine with memory }
  fault : other.fault? = given.fault?
  events : other.events = given.events
  signals : other.signals.map Signal.blank = given.signals.map Signal.blank

theorem Outcome.SameOver.andThen {memory : Memory} {given other : Outcome}
    {givenRest otherRest : Machine → Outcome} (same : given.SameOver memory other)
    (later : (givenRest given.machine).SameOver memory (otherRest other.machine)) :
    (given.andThen givenRest).SameOver memory (other.andThen otherRest) := by
  cases faulted : given.fault? with
  | some fault =>
      rw [andThen_of_fault faulted, andThen_of_fault (same.fault.trans faulted)]
      exact same
  | none =>
      rw [andThen_of_success faulted, andThen_of_success (same.fault.trans faulted)]
      refine ⟨later.machine, later.fault, ?_, ?_⟩
      · change other.events ++ _ = given.events ++ _
        rw [same.events, later.events]
      · simp only [List.map_append, same.signals, later.signals]

namespace Machine

/-! ## Execution over another memory -/

theorem machine_execute_withMemory (machine : Machine) (memory : Memory)
    (instruction : Instruction) :
    ({ machine with memory }.execute instruction).machine =
      { (machine.execute instruction).machine with memory } := by
  cases instruction with
  | call target =>
      rw [execute, execute, enterRoutine, enterRoutine]
      cases machine.stack.push? (following machine.pc) <;> rfl
  | ret =>
      rw [execute, execute, leaveRoutine, leaveRoutine]
      cases machine.stack.pop? <;> rfl
  | skipIf condition =>
      rw [execute, execute, advanceSkipping_eq_goTo, advanceSkipping_eq_goTo]
      rfl
  | _ => rfl

theorem execute_sameOver (machine : Machine) (memory : Memory)
    (instruction : Instruction) :
    (machine.execute instruction).SameOver memory
      ({ machine with memory }.execute instruction) := by
  have same : { machine with memory }.EqualButMemory machine := ⟨rfl, rfl, rfl, rfl⟩
  have alike := same.execute instruction
  exact ⟨machine.machine_execute_withMemory memory instruction, alike.fault?_eq,
    congrArg Observation.events alike, congrArg Observation.signals alike⟩

theorem executeAll_sameOver (machine : Machine) (memory : Memory)
    (instructions : List Instruction) :
    (machine.executeAll instructions).SameOver memory
      ({ machine with memory }.executeAll instructions) := by
  induction instructions generalizing machine with
  | nil => exact ⟨rfl, rfl, rfl, rfl⟩
  | cons instruction rest induction =>
      have first := machine.execute_sameOver memory instruction
      apply first.andThen
      rw [first.machine]
      exact induction _

/-! ## Lists that draw nothing -/

theorem blank_of_signal? {turn : Turn} {signal : Signal}
    (drawless : turn.instruction.isDraw = false) (sent : turn.signal? = some signal) :
    signal.blank = signal := by
  rcases turn with ⟨machine, instruction⟩
  cases instruction with
  | draw x y rows => cases drawless
  | clearScreen | delegate request =>
      cases sent
      rfl
  | _ => cases sent

theorem map_blank_executeAll (machine : Machine) {instructions : List Instruction}
    (drawless : ∀ instruction ∈ instructions, instruction.isDraw = false) :
    (machine.executeAll instructions).signals.map Signal.blank =
      (machine.executeAll instructions).signals := by
  have same : ∀ signal ∈ (machine.executeAll instructions).signals,
      signal.blank = id signal := by
    intro signal member
    rw [signals_executeAll] at member
    rcases List.mem_filterMap.mp member with ⟨turn, taken, sent⟩
    exact blank_of_signal? (drawless _ (instruction_mem_of_mem_turnsOf taken)) sent
  rw [List.map_congr_left same, List.map_id]

/-! ## Loads -/

/-- What a load does depends on nothing but memory, and is done to nothing but
memory. -/
theorem load_of_same_memory {machine other : Machine}
    (same : other.memory = machine.memory) (program : List UInt8) :
    (other.load program).machine =
        { other with memory := (machine.load program).machine.memory } ∧
      (other.load program).fault? = (machine.load program).fault? ∧
      (other.load program).signals = [] := by
  rcases Nat.lt_or_ge memorySize (programStart.toNat + program.length) with excess | fitting
  · rw [load_of_excess other excess, load_of_excess machine excess]
    exact ⟨by rw [Outcome.machine_stopped, Outcome.machine_stopped, ← same], rfl, rfl⟩
  · rw [load_of_fitting other fitting, load_of_fitting machine fitting, same]
    exact ⟨rfl, rfl, rfl⟩

/-- The machine that two loads and executions in opposite orders leave. -/
theorem load_executeAll (machine : Machine) (program : List UInt8)
    (instructions : List Instruction) :
    let loaded := machine.load program
    let executed := machine.executeAll instructions
    executed.SameOver loaded.machine.memory (loaded.machine.executeAll instructions) ∧
      (executed.machine.load program).machine =
        (loaded.machine.executeAll instructions).machine := by
  intro loaded executed
  have first : loaded.machine = { machine with memory := loaded.machine.memory } :=
    (load_of_same_memory rfl program).1
  have same : executed.SameOver loaded.machine.memory
      (loaded.machine.executeAll instructions) := by
    have another := machine.executeAll_sameOver loaded.machine.memory instructions
    rwa [← first] at another
  have second := load_of_same_memory (machine.memory_executeAll instructions) program
  exact ⟨same, second.1.trans same.machine.symm⟩

end Machine

/-- A load and the execution of instructions end with the same faults or none and
leave the same machine in either order. The peripheral is called with the same
but for the rows of sprites, and if nothing is drawn, it ends up in the same state
too. -/
theorem Wired.load_commutes_with_execution {State : Type u}
    (peripheral : Peripheral State) (console : Console State) (program : List UInt8)
    (instructions : List Instruction) :
    let load := Operation.load program
    let execution := Operation.executeAll instructions
    let loadedFirst := Wired.perform peripheral console load
    let executedSecond := Wired.perform peripheral loadedFirst.console execution
    let executedFirst := Wired.perform peripheral console execution
    let loadedSecond := Wired.perform peripheral executedFirst.console load
    loadedSecond.fault? = loadedFirst.fault? ∧
      executedSecond.fault? = executedFirst.fault? ∧
      executedSecond.machine = loadedSecond.machine ∧
      (loadedFirst.signals ++ executedSecond.signals).map Signal.blank =
        (executedFirst.signals ++ loadedSecond.signals).map Signal.blank ∧
      ((∀ instruction ∈ instructions, instruction.isDraw = false) →
        loadedFirst.signals ++ executedSecond.signals =
            executedFirst.signals ++ loadedSecond.signals ∧
          executedSecond.console = loadedSecond.console) := by
  intro load execution loadedFirst executedSecond executedFirst loadedSecond
  let machine := console.machine
  have unheard : loadedFirst.signals = [] := (Machine.load_of_same_memory rfl program).2.2
  have executed : executedFirst =
      Wired.afterwards peripheral console.state (machine.executeAll instructions) :=
    Wired.perform_eq peripheral console execution
  have executedAgain : executedSecond =
      Wired.afterwards peripheral console.state
        ((machine.load program).machine.executeAll instructions) :=
    Wired.perform_eq peripheral loadedFirst.console execution
  have loadedAgain : loadedSecond.toOutcome =
      (machine.executeAll instructions).machine.load program := by
    change executedFirst.machine.load program = _
    rw [executed]
    rfl
  rcases Machine.load_of_same_memory (machine.memory_executeAll instructions) program with
    ⟨_, fault, silent⟩
  rcases machine.load_executeAll program instructions with ⟨same, machines⟩
  refine ⟨?_, ?_, ?_, ?_, ?_⟩
  · rw [loadedAgain]
    exact fault
  · rw [executedAgain, executed]
    exact same.fault
  · rw [executedAgain, loadedAgain]
    exact machines.symm
  · rw [unheard, executedAgain, executed, loadedAgain, silent, List.append_nil]
    exact same.signals
  · intro drawless
    have signals : ((machine.load program).machine.executeAll instructions).signals =
        (machine.executeAll instructions).signals := by
      rw [← Machine.map_blank_executeAll _ drawless, same.signals,
        machine.map_blank_executeAll drawless]
    have heard : loadedSecond.state =
        peripheral.receiveAll console.state (machine.executeAll instructions).signals := by
      change executedFirst.state = _
      rw [executed]
      rfl
    constructor
    · rw [unheard, executedAgain, executed, loadedAgain, silent, List.append_nil]
      exact signals
    · rw [Wired.Result.console, Wired.Result.console, heard, loadedAgain, executedAgain,
        machines, ← signals]
      rfl

/-- The second return fails in either order, and the peripheral has recorded the same
request. -/
theorem Wired.load_commutes_with_execution_of_underflow :
    let peripheral := Recording.peripheral
    let console := Console.initial Recording.empty
    let instructions : List Instruction :=
      [.call ⟨0x300⟩, .delegate (.random ⟨1⟩ 7), .ret, .ret, .clearScreen]
    let load := Operation.load [0x12, 0x00]
    let execution := Operation.executeAll instructions
    let loadedFirst := Wired.perform peripheral console load
    let executedSecond := Wired.perform peripheral loadedFirst.console execution
    let executedFirst := Wired.perform peripheral console execution
    let loadedSecond := Wired.perform peripheral executedFirst.console load
    (∀ instruction ∈ instructions, instruction.isDraw = false) ∧
      executedFirst.fault? = some .stackUnderflow ∧
      executedSecond.fault? = executedFirst.fault? ∧
      executedSecond.console = loadedSecond.console := by
  intro peripheral console instructions load execution loadedFirst executedSecond
    executedFirst loadedSecond
  have drawless : ∀ instruction ∈ instructions, instruction.isDraw = false := by decide
  have fault : executedFirst.fault? = some .stackUnderflow := by decide +kernel
  rcases Wired.load_commutes_with_execution peripheral console [0x12, 0x00] instructions with
    ⟨_, faults, _, _, same⟩
  exact ⟨drawless, fault, faults, (same drawless).2⟩

end Chip8
