import Chip8.Instruction
import Chip8.RegisterFile

/-! # Peripherals

The display, the keyboard and the timers live outside the core. The core tells
them what to do and never hears back, so what it tells them is plain data. -/

namespace Chip8

universe u

/-- One message from the core to its peripheral. -/
inductive Signal where
  | clearScreen
  /-- A sprite, one byte for each row, at the position `x`, `y`. -/
  | drawSprite (x y : UInt8) (sprite : List UInt8)
  /-- A request together with the registers and the index register, which the
  peripheral may consult. -/
  | delegate (request : Request) (registers : RegisterFile) (index : UInt16)
deriving DecidableEq

/-- What a peripheral with its own state does on each kind of signal. -/
structure Peripheral (State : Type u) where
  clearScreen : State → State
  drawSprite : UInt8 → UInt8 → List UInt8 → State → State
  delegate : Request → RegisterFile → UInt16 → State → State

namespace Peripheral

def receive {State : Type u} (peripheral : Peripheral State) (state : State) :
    Signal → State
  | .clearScreen => peripheral.clearScreen state
  | .drawSprite x y sprite => peripheral.drawSprite x y sprite state
  | .delegate request registers index =>
      peripheral.delegate request registers index state

def receiveAll {State : Type u} (peripheral : Peripheral State) (state : State)
    (signals : List Signal) : State :=
  signals.foldl peripheral.receive state

@[simp] theorem receiveAll_nil {State : Type u} (peripheral : Peripheral State)
    (state : State) : peripheral.receiveAll state [] = state := rfl

theorem receiveAll_append {State : Type u} (peripheral : Peripheral State)
    (state : State) (first second : List Signal) :
    peripheral.receiveAll state (first ++ second) =
      peripheral.receiveAll (peripheral.receiveAll state first) second :=
  List.foldl_append

/-! ## Peripherals at hand -/

/-- A peripheral that ignores everything. -/
def null : Peripheral Unit where
  clearScreen _ := ()
  drawSprite _ _ _ _ := ()
  delegate _ _ _ _ := ()

/-- A peripheral that keeps every signal, oldest first. No other definition depends
on it: it is there for programs that show what a machine asked of its peripheral. -/
def journal : Peripheral (Array Signal) where
  clearScreen signals := signals.push .clearScreen
  drawSprite x y sprite signals := signals.push (.drawSprite x y sprite)
  delegate request registers index signals :=
    signals.push (.delegate request registers index)

end Peripheral

/-- A sprite and the position at which it was drawn. -/
structure Drawing where
  x : UInt8
  y : UInt8
  sprite : List UInt8
deriving DecidableEq

/-- What a recording peripheral remembers of the signals it received. -/
structure Recording where
  clears : Nat
  drawings : Array Drawing
  requests : Array Request
deriving DecidableEq

namespace Recording

def empty : Recording := ⟨0, #[], #[]⟩

def peripheral : Peripheral Recording where
  clearScreen recording := { recording with clears := recording.clears + 1 }
  drawSprite x y sprite recording :=
    { recording with drawings := recording.drawings.push ⟨x, y, sprite⟩ }
  delegate request _ _ recording :=
    { recording with requests := recording.requests.push request }

end Recording

end Chip8
