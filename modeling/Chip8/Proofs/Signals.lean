import Chip8.Console
import Chip8.Proofs.Move

/-! # Signals

What a peripheral hears. Every instruction that succeeds sends at most one
signal, which depends on nothing but the instruction and the machine at that
moment, and nothing else sends signals. -/

namespace Chip8

universe u

/-! ## The signal of one instruction -/

/-- An instruction and the machine that executes it. -/
structure Turn where
  machine : Machine
  instruction : Instruction
deriving DecidableEq

/-- Screens are cleared, sprites drawn, and requests handed on with the registers
that they may concern. No other instruction says anything. -/
def Turn.signal? (turn : Turn) : Option Signal :=
  let machine := turn.machine
  let start := machine.index.toNat
  match turn.instruction with
  | .clearScreen => some .clearScreen
  | .draw x y rows =>
      let stop := min (start + rows.toNat) 4096
      some (.drawSprite (machine.registers.read x) (machine.registers.read y)
        ((List.range' start (stop - start)).map machine.memory.read))
  | .delegate request => some (.delegate request machine.registers machine.index)
  | _ => none

namespace Machine

theorem signals_execute_of_usesStack {machine : Machine} {instruction : Instruction}
    (linking : instruction.usesStack = true) :
    (machine.execute instruction).signals = [] := by
  rcases machine.execute_of_usesStack linking with
    ⟨fault, stopped⟩ | ⟨event, stack, pc, _, moved⟩
  · rw [stopped]
    rfl
  · rw [moved]
    rfl

theorem signals_execute (machine : Machine) (instruction : Instruction) :
    (machine.execute instruction).signals =
      (Turn.signal? ⟨machine, instruction⟩).toList := by
  cases instruction with
  | ret => exact signals_execute_of_usesStack rfl
  | call target => exact signals_execute_of_usesStack rfl
  | draw x y rows =>
      rw [execute, sprite, Memory.window_eq_map_read _ _ (Nat.min_le_right _ _)]
      rfl
  | _ => rfl

/-! ## The turns of operations -/

/-- The turns of a list of instructions: all before the first one that faults. -/
def turnsOf (machine : Machine) : List Instruction → List Turn
  | [] => []
  | instruction :: rest =>
      let outcome := machine.execute instruction
      match outcome.fault? with
      | some _ => []
      | none => ⟨machine, instruction⟩ :: outcome.machine.turnsOf rest

def turns (machine : Machine) : Operation → List Turn
  | .load _ => []
  | .step => machine.turnsOf machine.upcoming?.toList
  | .execute instruction => machine.turnsOf [instruction]
  | .executeAll instructions => machine.turnsOf instructions

def turnsAll (machine : Machine) : List Operation → List Turn
  | [] => []
  | operation :: rest =>
      machine.turns operation ++ (machine.perform operation).machine.turnsAll rest

theorem signals_executeAll (machine : Machine) (instructions : List Instruction) :
    (machine.executeAll instructions).signals =
      (machine.turnsOf instructions).filterMap Turn.signal? := by
  induction instructions generalizing machine with
  | nil => rfl
  | cons instruction rest induction =>
      rw [executeAll, turnsOf]
      cases faulted : (machine.execute instruction).fault? with
      | some fault =>
          rw [Outcome.andThen_of_fault faulted, execute_eq_stopped faulted]
          rfl
      | none =>
          rw [Outcome.andThen_of_success faulted, signals_execute, induction,
            List.filterMap_cons]
          cases Turn.signal? ⟨machine, instruction⟩ <;> rfl

theorem executeAll_singleton (machine : Machine) (instruction : Instruction) :
    machine.executeAll [instruction] = machine.execute instruction :=
  Outcome.andThen_quiet _

theorem signals_perform (machine : Machine) (operation : Operation) :
    (machine.perform operation).signals =
      (machine.turns operation).filterMap Turn.signal? := by
  cases operation with
  | load program =>
      rw [perform, load]
      split <;> rfl
  | step =>
      rw [perform, turns, upcoming?]
      cases fetched : machine.fetch with
      | error fault =>
          rw [step_of_unfetched fetched]
          rfl
      | ok opcode =>
          rw [step_of_fetched fetched, Outcome.signals_reporting, ← executeAll_singleton]
          exact machine.signals_executeAll _
  | execute instruction =>
      rw [perform, turns, ← executeAll_singleton]
      exact machine.signals_executeAll _
  | executeAll instructions => exact machine.signals_executeAll instructions

theorem signals_outcomes (machine : Machine) (operations : List Operation) :
    (machine.outcomes operations).flatMap Outcome.signals =
      (machine.turnsAll operations).filterMap Turn.signal? := by
  induction operations generalizing machine with
  | nil => rfl
  | cons operation rest induction =>
      rw [outcomes, turnsAll, List.flatMap_cons, List.filterMap_append, signals_perform,
        induction]

end Machine

/-! ## Recordings -/

namespace Signal

def drawing? : Signal → Option Drawing
  | .drawSprite x y sprite => some ⟨x, y, sprite⟩
  | _ => none

def request? : Signal → Option Request
  | .delegate request _ _ => some request
  | _ => none

end Signal

theorem Recording.receiveAll_peripheral (recording : Recording) (signals : List Signal) :
    let recorded := Recording.peripheral.receiveAll recording signals
    recorded.clears = recording.clears + signals.count .clearScreen ∧
      recorded.drawings.toList =
        recording.drawings.toList ++ signals.filterMap Signal.drawing? ∧
      recorded.requests.toList =
        recording.requests.toList ++ signals.filterMap Signal.request? := by
  induction signals generalizing recording with
  | nil => simp
  | cons signal rest induction =>
      rcases induction (Recording.peripheral.receive recording signal) with
        ⟨clears, drawings, requests⟩
      refine ⟨clears.trans ?_, drawings.trans ?_, requests.trans ?_⟩
      · cases signal <;> simp [Peripheral.receive, peripheral, Nat.add_assoc, Nat.add_comm 1]
      · cases signal <;> simp [Peripheral.receive, peripheral, Signal.drawing?, List.filterMap_cons]
      · cases signal <;> simp [Peripheral.receive, peripheral, Signal.request?, List.filterMap_cons]

namespace Console

/-- The peripheral receives, in order, the signals of the instructions that
succeeded, each as the machine was when the instruction had its turn, and no
others. So a recording counts the clearings and lists the drawings and the
requests among them. -/
theorem signals_of_turns {State : Type u} (peripheral : Peripheral State)
    (console : Console State) (recording : Recording) (operations : List Operation) :
    let signals := (console.machine.turnsAll operations).filterMap Turn.signal?
    let recorded :=
      ((Console.mk console.machine recording).performAll Recording.peripheral
        operations).state
    (console.machine.outcomes operations).flatMap Outcome.signals = signals ∧
      (console.performAll peripheral operations).state =
        peripheral.receiveAll console.state signals ∧
      recorded.clears = recording.clears + signals.count .clearScreen ∧
      recorded.drawings.toList =
        recording.drawings.toList ++ signals.filterMap Signal.drawing? ∧
      recorded.requests.toList =
        recording.requests.toList ++ signals.filterMap Signal.request? := by
  intro signals recorded
  have sent : (console.machine.outcomes operations).flatMap Outcome.signals = signals :=
    console.machine.signals_outcomes operations
  have received : recorded = Recording.peripheral.receiveAll recording signals := by
    rw [← sent]
    exact state_performAll Recording.peripheral ⟨console.machine, recording⟩ operations
  refine ⟨sent, ?_, ?_⟩
  · rw [state_performAll, sent]
  · rw [received]
    exact recording.receiveAll_peripheral signals

end Console

end Chip8
