import Chip8.Proofs.Execution

/-! # Moves

A move is an operation that executes at most one instruction. A list of
instructions counts as one move for each instruction that is reached, so every
operation comes down to moves. -/

namespace Chip8

inductive Move where
  | load (program : List UInt8)
  | step
  | execute (instruction : Instruction)
deriving DecidableEq

def Move.operation : Move → Operation
  | .load program => .load program
  | .step => .step
  | .execute instruction => .execute instruction

namespace Machine

def move (machine : Machine) (move : Move) : Outcome :=
  machine.perform move.operation

/-- The machine after moves in order. -/
def moveAll (machine : Machine) : List Move → Machine
  | [] => machine
  | first :: rest => (machine.move first).machine.moveAll rest

/-- The instruction at the program counter. -/
def upcoming? (machine : Machine) : Option Instruction :=
  match machine.fetch with
  | .ok opcode => some (.decode opcode)
  | .error _ => none

theorem upcoming?_eq_some_iff {machine : Machine} {instruction : Instruction} :
    machine.upcoming? = some instruction ↔
      ∃ opcode, machine.fetch = .ok opcode ∧ .decode opcode = instruction := by
  rw [upcoming?]
  cases machine.fetch <;> simp

/-- The instruction that a move executes, whether or not it faults. -/
def executed? (machine : Machine) : Move → Option Instruction
  | .load _ => none
  | .step => machine.upcoming?
  | .execute instruction => some instruction

/-- A move executes its instruction, or else leaves everything but memory
alone. -/
theorem machine_move_of_executed {machine : Machine} {move : Move}
    {instruction : Instruction} (executed : machine.executed? move = some instruction) :
    (machine.move move).machine = (machine.execute instruction).machine ∧
      (machine.move move).fault? = (machine.execute instruction).fault? := by
  cases move with
  | load program => simp [executed?] at executed
  | step =>
      rcases upcoming?_eq_some_iff.mp executed with ⟨opcode, fetched, rfl⟩
      simp [Machine.move, Move.operation, perform, step_of_fetched fetched]
  | execute given =>
      simp only [executed?, Option.some.injEq] at executed
      subst executed
      exact ⟨rfl, rfl⟩

theorem machine_move_of_unexecuted {machine : Machine} {move : Move}
    (unexecuted : machine.executed? move = none) :
    ∃ memory, (machine.move move).machine = { machine with memory } := by
  cases move with
  | load program =>
      change ∃ memory, (machine.load program).machine = { machine with memory }
      rw [load]
      split
      · exact ⟨_, rfl⟩
      · exact ⟨machine.memory, rfl⟩
  | step =>
      cases fetched : machine.fetch with
      | error fault =>
          refine ⟨machine.memory, ?_⟩
          simp [Machine.move, Move.operation, perform, step_of_unfetched fetched]
      | ok opcode => simp [executed?, upcoming?, fetched] at unexecuted
  | execute given => simp [executed?] at unexecuted

/-! ## The moves of an operation -/

/-- The instructions of a list that are reached: all up to and with the first
one that faults. -/
def reached (machine : Machine) : List Instruction → List Instruction
  | [] => []
  | instruction :: rest =>
      let outcome := machine.execute instruction
      match outcome.fault? with
      | some _ => [instruction]
      | none => instruction :: outcome.machine.reached rest

def moves (machine : Machine) : Operation → List Move
  | .load program => [.load program]
  | .step => [.step]
  | .execute instruction => [.execute instruction]
  | .executeAll instructions => (machine.reached instructions).map .execute

theorem moveAll_reached (machine : Machine) (instructions : List Instruction) :
    machine.moveAll ((machine.reached instructions).map .execute) =
      (machine.executeAll instructions).machine := by
  induction instructions generalizing machine with
  | nil => rfl
  | cons instruction rest induction =>
      rw [reached, executeAll]
      cases faulted : (machine.execute instruction).fault? with
      | some fault =>
          rw [Outcome.andThen_of_fault faulted]
          rfl
      | none =>
          rw [Outcome.andThen_of_success faulted]
          exact induction _

theorem moveAll_moves (machine : Machine) (operation : Operation) :
    machine.moveAll (machine.moves operation) = (machine.perform operation).machine := by
  cases operation with
  | load program => rfl
  | step => rfl
  | execute instruction => rfl
  | executeAll instructions => exact machine.moveAll_reached instructions

def movesAll (machine : Machine) : List Operation → List Move
  | [] => []
  | operation :: rest =>
      machine.moves operation ++ (machine.perform operation).machine.movesAll rest

theorem moveAll_append (machine : Machine) (first second : List Move) :
    machine.moveAll (first ++ second) = (machine.moveAll first).moveAll second := by
  induction first generalizing machine with
  | nil => rfl
  | cons move rest induction => exact induction _

theorem moveAll_movesAll (machine : Machine) (operations : List Operation) :
    machine.moveAll (machine.movesAll operations) = machine.performAll operations := by
  induction operations generalizing machine with
  | nil => rfl
  | cons operation rest induction =>
      rw [movesAll, moveAll_append, moveAll_moves, induction]
      rfl

end Machine

end Chip8
