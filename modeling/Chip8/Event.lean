import Chip8.Instruction.Decode
import Chip8.Instruction.Text
import Chip8.Text.Hex

/-! # Events

What the core reports while it works. Every event has a level of severity, by
which listeners choose what they want to hear, and a message. -/

namespace Chip8

/-! ## Levels -/

inductive Level where
  | error
  | warn
  | info
  | debug
  | trace
deriving DecidableEq

namespace Level

/-- The least severe level has the highest rank. -/
def rank : Level → Nat
  | .error => 1
  | .warn => 2
  | .info => 3
  | .debug => 4
  | .trace => 5

def name : Level → String
  | .error => "ERROR"
  | .warn => "WARN"
  | .info => "INFO"
  | .debug => "DEBUG"
  | .trace => "TRACE"

/-- Whether a listener with this threshold hears a level. Without a threshold
nothing is heard. -/
def heard (threshold : Option Level) (level : Level) : Bool :=
  match threshold with
  | none => false
  | some least => level.rank ≤ least.rank

end Level

/-! ## Events of the core -/

inductive Event where
  | loaded (length : Nat)
  | fetched (pc : UInt16) (opcode : Opcode)
  /-- The target is reported as it was given, before wrapping. -/
  | called (target : Address) (returnAddress : UInt16)
  | returned (address : UInt16)
  | skippedUnknown (opcode : Opcode) (pc : UInt16)
deriving DecidableEq

namespace Event

def level : Event → Level
  | .loaded _ => .debug
  | .fetched _ _ => .trace
  | .called _ _ => .debug
  | .returned _ => .debug
  | .skippedUnknown _ _ => .warn

def message : Event → String
  | .loaded length =>
      "Loaded " ++ toString length ++ " bytes at " ++
        Text.hexLiteral 3 programStart.toNat
  | .fetched pc opcode =>
      Text.hexLiteral 3 pc.toNat ++ ": " ++ Text.hexLiteral 4 opcode.word.toNat ++
        " " ++ (Instruction.decode opcode).text
  | .called target returnAddress =>
      "Call " ++ Text.hexLiteral 3 target.word.toNat ++ ", returning to " ++
        Text.hexLiteral 3 returnAddress.toNat
  | .returned address => "Return to " ++ Text.hexLiteral 3 address.toNat
  | .skippedUnknown opcode pc =>
      "Skipping unknown opcode " ++ Text.hexLiteral 4 opcode.word.toNat ++ " at " ++
        Text.hexLiteral 3 pc.toNat

end Event

end Chip8
