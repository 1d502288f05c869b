import Chip8.Machine.Operation

/-! # Consoles

A console is a machine wired to a peripheral: after every operation the
peripheral receives the signals of the outcome, in order. -/

namespace Chip8

universe u

structure Console (State : Type u) where
  machine : Machine
  state : State

namespace Console

def initial {State : Type u} (state : State) : Console State :=
  ⟨.initial, state⟩

/-- The console after an operation of its machine with this outcome. -/
def absorb {State : Type u} (peripheral : Peripheral State)
    (console : Console State) (outcome : Outcome) : Console State :=
  ⟨outcome.machine, peripheral.receiveAll console.state outcome.signals⟩

/-- The console after operations of its machine in order. -/
def performAll {State : Type u} (peripheral : Peripheral State)
    (console : Console State) : List Operation → Console State
  | [] => console
  | operation :: rest =>
      (console.absorb peripheral (console.machine.perform operation)).performAll
        peripheral rest

/-- A peripheral is told and never asked, so it has no influence on the
machine. -/
theorem machine_performAll {State : Type u} (peripheral : Peripheral State)
    (console : Console State) (operations : List Operation) :
    (console.performAll peripheral operations).machine =
      console.machine.performAll operations := by
  induction operations generalizing console with
  | nil => rfl
  | cons operation rest induction => exact induction _

/-- All that a peripheral learns is the signals of the outcomes. -/
theorem state_performAll {State : Type u} (peripheral : Peripheral State)
    (console : Console State) (operations : List Operation) :
    (console.performAll peripheral operations).state =
      peripheral.receiveAll console.state
        ((console.machine.outcomes operations).flatMap Outcome.signals) := by
  induction operations generalizing console with
  | nil => rfl
  | cons operation rest induction =>
      rw [performAll, induction, Machine.outcomes, List.flatMap_cons,
        Peripheral.receiveAll_append]
      rfl

end Console

end Chip8
