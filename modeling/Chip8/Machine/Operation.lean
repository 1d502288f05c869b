import Chip8.Machine.Step

/-! # Operations

The ways in which a machine is driven from outside. -/

namespace Chip8

inductive Operation where
  | load (program : List UInt8)
  | step
  | execute (instruction : Instruction)
  | executeAll (instructions : List Instruction)
deriving DecidableEq

namespace Machine

def perform (machine : Machine) : Operation → Outcome
  | .load program => machine.load program
  | .step => machine.step
  | .execute instruction => machine.execute instruction
  | .executeAll instructions => machine.executeAll instructions

/-- The machine after operations in order. A fault ends the operation that it
stops and no other. -/
def performAll (machine : Machine) : List Operation → Machine
  | [] => machine
  | operation :: rest => (machine.perform operation).machine.performAll rest

/-- What comes of each of these operations. -/
def outcomes (machine : Machine) : List Operation → List Outcome
  | [] => []
  | operation :: rest =>
      let outcome := machine.perform operation
      outcome :: outcome.machine.outcomes rest

end Machine

end Chip8
