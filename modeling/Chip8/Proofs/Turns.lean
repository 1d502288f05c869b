import Chip8.Proofs.Signals

/-! # Turns

The instructions that succeed while operations are performed, each with the
machine whose turn it is. A property that survives every turn which meets some
condition survives operations all of whose turns meet it. Cut into moves,
operations have the same turns as before. -/

namespace Chip8

namespace Machine

/-! ## Invariants under a condition -/

/-- A property that a load preserves, and an instruction whose turn meets a
condition. -/
structure InvariantWhile (condition : Turn → Prop) (property : Machine → Prop) :
    Prop where
  load : ∀ (machine : Machine) (program : List UInt8),
    property machine → property (machine.load program).machine
  execute : ∀ turn : Turn, property turn.machine → condition turn →
    property (turn.machine.execute turn.instruction).machine

namespace InvariantWhile

variable {condition : Turn → Prop} {property : Machine → Prop} {machine : Machine}

theorem executeAll (invariant : InvariantWhile condition property)
    (holds : property machine) {instructions : List Instruction}
    (met : ∀ turn ∈ machine.turnsOf instructions, condition turn) :
    property (machine.executeAll instructions).machine := by
  induction instructions generalizing machine with
  | nil => exact holds
  | cons instruction rest induction =>
      rw [turnsOf] at met
      rw [Machine.executeAll]
      cases faulted : (machine.execute instruction).fault? with
      | some fault =>
          -- An instruction that faults has no turn, but it changes nothing either.
          rw [Outcome.andThen_of_fault faulted, execute_eq_stopped faulted]
          exact holds
      | none =>
          simp only [faulted, List.forall_mem_cons] at met
          rw [Outcome.andThen_of_success faulted]
          exact induction (invariant.execute _ holds met.1) met.2

theorem perform (invariant : InvariantWhile condition property) (holds : property machine)
    {operation : Operation} (met : ∀ turn ∈ machine.turns operation, condition turn) :
    property (machine.perform operation).machine := by
  cases operation with
  | load program => exact invariant.load machine program holds
  | step =>
      rw [turns, upcoming?] at met
      rw [Machine.perform]
      cases fetched : machine.fetch with
      | error fault =>
          rw [step_of_unfetched fetched]
          exact holds
      | ok opcode =>
          rw [fetched] at met
          rw [step_of_fetched fetched, Outcome.machine_reporting, ← executeAll_singleton]
          exact invariant.executeAll holds met
  | execute instruction =>
      rw [Machine.perform, ← executeAll_singleton]
      exact invariant.executeAll holds met
  | executeAll instructions => exact invariant.executeAll holds met

theorem performAll (invariant : InvariantWhile condition property)
    (holds : property machine) {operations : List Operation}
    (met : ∀ turn ∈ machine.turnsAll operations, condition turn) :
    property (machine.performAll operations) := by
  induction operations generalizing machine with
  | nil => exact holds
  | cons operation rest induction =>
      rw [turnsAll, List.forall_mem_append] at met
      exact induction (invariant.perform holds met.1) met.2

end InvariantWhile

/-! ## Turns of a list -/

theorem instruction_mem_of_mem_turnsOf {machine : Machine}
    {instructions : List Instruction} {turn : Turn}
    (member : turn ∈ machine.turnsOf instructions) : turn.instruction ∈ instructions := by
  induction instructions generalizing machine with
  | nil => cases member
  | cons instruction rest induction =>
      rw [turnsOf] at member
      cases faulted : (machine.execute instruction).fault? with
      | some fault =>
          rw [faulted] at member
          cases member
      | none =>
          simp only [faulted, List.mem_cons] at member
          rcases member with rfl | later
          · exact List.mem_cons_self
          · exact List.mem_cons_of_mem _ (induction later)

/-! ## Turns of moves -/

theorem performAll_map_operation (machine : Machine) (moves : List Move) :
    machine.performAll (moves.map Move.operation) = machine.moveAll moves := by
  induction moves generalizing machine with
  | nil => rfl
  | cons move rest induction => exact induction _

theorem turnsAll_append (machine : Machine) (first second : List Operation) :
    machine.turnsAll (first ++ second) =
      machine.turnsAll first ++ (machine.performAll first).turnsAll second := by
  induction first generalizing machine with
  | nil => rfl
  | cons operation rest induction =>
      rw [List.cons_append, turnsAll, induction, turnsAll, List.append_assoc]
      rfl

theorem turnsAll_reached (machine : Machine) (instructions : List Instruction) :
    machine.turnsAll ((machine.reached instructions).map .execute) =
      machine.turnsOf instructions := by
  induction instructions generalizing machine with
  | nil => rfl
  | cons instruction rest induction =>
      rw [reached, turnsOf]
      cases faulted : (machine.execute instruction).fault? with
      | some fault => simp [turnsAll, turns, turnsOf, faulted]
      | none => simp [turnsAll, turns, turnsOf, faulted, perform, induction]

theorem turnsAll_moves (machine : Machine) (operation : Operation) :
    machine.turnsAll ((machine.moves operation).map Move.operation) =
      machine.turns operation := by
  cases operation with
  | executeAll instructions =>
      rw [moves, List.map_map]
      exact machine.turnsAll_reached instructions
  | _ => exact List.append_nil _

theorem turnsAll_movesAll (machine : Machine) (operations : List Operation) :
    machine.turnsAll ((machine.movesAll operations).map Move.operation) =
      machine.turnsAll operations := by
  induction operations generalizing machine with
  | nil => rfl
  | cons operation rest induction =>
      rw [movesAll, List.map_append, turnsAll_append, turnsAll_moves,
        performAll_map_operation, moveAll_moves, induction, turnsAll]

/-- The turns up to a number of moves are among all turns. -/
theorem mem_turnsAll_of_take {machine : Machine} {operations : List Operation}
    {number : Nat} {turn : Turn}
    (member : turn ∈ machine.turnsAll
      (((machine.movesAll operations).take number).map Move.operation)) :
    turn ∈ machine.turnsAll operations := by
  rw [← turnsAll_movesAll, ← List.take_append_drop number (machine.movesAll operations),
    List.map_append, turnsAll_append]
  exact List.mem_append_left _ member

end Machine

end Chip8
