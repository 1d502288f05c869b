import Chip8.Proofs.Observation
import Chip8.Proofs.Signals

/-! # Peripherals that are told at once

Here a console calls its peripheral in the middle of an instruction, and the
peripheral has done its work before the console goes on. Nothing comes back from
it: whatever it does, the machine goes the same way, and the peripheral ends up
where it does when it is told after each operation. -/

namespace Chip8

universe u v

namespace Wired

/-- An outcome together with the state in which it leaves the peripheral. -/
structure Result (State : Type u) extends Outcome where
  state : State

variable {State : Type u}

def Result.console (result : Result State) : Console State :=
  ⟨result.machine, result.state⟩

def Result.andThen (first : Result State) (second : Console State → Result State) :
    Result State :=
  match first.fault? with
  | some _ => first
  | none =>
      let rest := second first.console
      { rest with
        events := first.events ++ rest.events
        signals := first.signals ++ rest.signals }

variable (peripheral : Peripheral State)

/-! ## Operations -/

/-- Call the peripheral, then continue with the next instruction. -/
def tell (console : Console State) (signal : Signal) : Result State where
  toOutcome := .signalling signal (.quiet console.machine.advance)
  state := peripheral.receive console.state signal

def execute (console : Console State) (instruction : Instruction) : Result State :=
  let machine := console.machine
  match instruction with
  | .clearScreen => tell peripheral console .clearScreen
  | .draw x y rows =>
      tell peripheral console
        (.drawSprite (machine.registers.read x) (machine.registers.read y)
          (machine.sprite rows))
  | .delegate request =>
      tell peripheral console (.delegate request machine.registers machine.index)
  | other => ⟨machine.execute other, console.state⟩

def executeAll (console : Console State) : List Instruction → Result State
  | [] => ⟨.quiet console.machine, console.state⟩
  | instruction :: rest =>
      (execute peripheral console instruction).andThen fun next => executeAll next rest

def step (console : Console State) : Result State :=
  match console.machine.fetch with
  | .error fault => ⟨.stopped console.machine fault, console.state⟩
  | .ok opcode =>
      let result := execute peripheral console (.decode opcode)
      { result with events := .fetched console.machine.pc opcode :: result.events }

def perform (console : Console State) : Operation → Result State
  | .load program => ⟨console.machine.load program, console.state⟩
  | .step => step peripheral console
  | .execute instruction => execute peripheral console instruction
  | .executeAll instructions => executeAll peripheral console instructions

/-- What comes of each of these operations. -/
def results (console : Console State) : List Operation → List (Result State)
  | [] => []
  | operation :: rest =>
      let result := perform peripheral console operation
      result :: results result.console rest

/-- The console after operations in order. -/
def performAll (console : Console State) : List Operation → Console State
  | [] => console
  | operation :: rest => performAll (perform peripheral console operation).console rest

/-- What is seen from outside, one operation after the other: the calls to the
peripheral are part of it, the state of the peripheral is not. -/
def observations (console : Console State) (operations : List Operation) :
    List Observation :=
  (results peripheral console operations).map fun result => result.toOutcome.observe

/-! ## Agreement -/

/-- The result if the peripheral is told after the operation. -/
def afterwards (state : State) (outcome : Outcome) : Result State :=
  ⟨outcome, peripheral.receiveAll state outcome.signals⟩

@[simp] theorem fault?_afterwards (state : State) (outcome : Outcome) :
    (afterwards peripheral state outcome).fault? = outcome.fault? := rfl

@[simp] theorem console_afterwards (console : Console State) (outcome : Outcome) :
    (afterwards peripheral console.state outcome).console =
      console.absorb peripheral outcome := rfl

theorem afterwards_andThen (state : State) (first : Outcome) {second : Machine → Outcome}
    {wired : Console State → Result State}
    (agree : ∀ console : Console State,
      wired console = afterwards peripheral console.state (second console.machine)) :
    (afterwards peripheral state first).andThen wired =
      afterwards peripheral state (first.andThen second) := by
  rw [Result.andThen, fault?_afterwards, agree]
  cases faulted : first.fault? with
  | some fault => rw [Outcome.andThen_of_fault faulted]
  | none =>
      simp only [Outcome.andThen_of_success faulted, afterwards,
        Peripheral.receiveAll_append]
      rfl

theorem execute_eq (console : Console State) (instruction : Instruction) :
    execute peripheral console instruction =
      afterwards peripheral console.state (console.machine.execute instruction) := by
  cases instruction with
  | ret =>
      rw [afterwards, Machine.signals_execute_of_usesStack rfl]
      rfl
  | call target =>
      rw [afterwards, Machine.signals_execute_of_usesStack rfl]
      rfl
  | _ => rfl

theorem executeAll_eq (console : Console State) (instructions : List Instruction) :
    executeAll peripheral console instructions =
      afterwards peripheral console.state (console.machine.executeAll instructions) := by
  induction instructions generalizing console with
  | nil => rfl
  | cons instruction rest induction =>
      rw [executeAll, execute_eq, Machine.executeAll]
      exact afterwards_andThen peripheral console.state _ induction

theorem step_eq (console : Console State) :
    step peripheral console = afterwards peripheral console.state console.machine.step := by
  rw [step]
  cases fetched : console.machine.fetch with
  | error fault =>
      rw [Machine.step_of_unfetched fetched]
      rfl
  | ok opcode =>
      rw [Machine.step_of_fetched fetched]
      simp only [execute_eq]
      rfl

theorem perform_eq (console : Console State) (operation : Operation) :
    perform peripheral console operation =
      afterwards peripheral console.state (console.machine.perform operation) := by
  cases operation with
  | load program =>
      rw [perform, afterwards, Machine.signals_perform]
      rfl
  | step => exact step_eq peripheral console
  | execute instruction => exact execute_eq peripheral console instruction
  | executeAll instructions => exact executeAll_eq peripheral console instructions

theorem observations_eq (console : Console State) (operations : List Operation) :
    observations peripheral console operations =
      console.machine.observations operations := by
  induction operations generalizing console with
  | nil => rfl
  | cons operation rest induction =>
      rw [observations, results, perform_eq, List.map_cons, Machine.observations,
        Machine.outcomes, List.map_cons]
      exact congrArg _ (induction _)

theorem performAll_eq (console : Console State) (operations : List Operation) :
    performAll peripheral console operations =
      console.performAll peripheral operations := by
  induction operations generalizing console with
  | nil => rfl
  | cons operation rest induction =>
      rw [performAll, perform_eq, console_afterwards, induction, Console.performAll]

/-- Two consoles that are switched on with whatever peripherals show the same
after every operation, namely what a machine without peripheral shows, and their
peripherals are called with the same. The peripheral has the same state in the
end as if it had been told after each operation. -/
theorem peripherals_only_observe {First : Type u} {Second : Type v}
    (first : Peripheral First) (second : Peripheral Second) (firstState : First)
    (secondState : Second) (operations : List Operation) :
    observations first (.initial firstState) operations =
        observations second (.initial secondState) operations ∧
      observations first (.initial firstState) operations =
        Machine.initial.observations operations ∧
      performAll first (.initial firstState) operations =
        (Console.initial firstState).performAll first operations := by
  refine ⟨?_, ?_, ?_⟩
  · rw [observations_eq, observations_eq]
    rfl
  · exact observations_eq first _ operations
  · exact performAll_eq first _ operations

end Wired

end Chip8
