import Chip8.Text.Hex

/-! # Faults

The conditions that stop a single operation. A machine that faults stays as it
was before the operation. -/

namespace Chip8

inductive Fault where
  /-- A call found every stack slot occupied. -/
  | stackOverflow (returnAddress : UInt16)
  /-- A return found no stack slot occupied. -/
  | stackUnderflow
  /-- Bytes to be fetched or loaded do not all lie inside memory. -/
  | outOfBounds (address length : Nat)
deriving DecidableEq

namespace Fault

def name : Fault → String
  | .stackOverflow _ => "StackOverflow"
  | .stackUnderflow => "StackUnderflow"
  | .outOfBounds _ _ => "OutOfBounds"

/-- The name followed by the values that belong to it. -/
def detail (fault : Fault) : String :=
  match fault with
  | .stackOverflow returnAddress =>
      fault.name ++ " \x7b return_address: " ++ toString returnAddress.toNat ++ " \x7d"
  | .stackUnderflow => fault.name
  | .outOfBounds address length =>
      fault.name ++ " \x7b address: " ++ toString address ++
        ", len: " ++ toString length ++ " \x7d"

/-- A sentence for the person who runs the program. -/
def message : Fault → String
  | .stackOverflow returnAddress =>
      "stack overflow: no room to save return address " ++
        Text.hexLiteral 3 returnAddress.toNat
  | .stackUnderflow => "stack underflow: return with an empty call stack"
  | .outOfBounds address length =>
      "out of bounds: " ++ toString length ++ " bytes at " ++
        Text.hexLiteral 4 address ++ " do not fit in memory"

end Fault

end Chip8
