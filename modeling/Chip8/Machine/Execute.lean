import Chip8.Machine

/-! # Executing one instruction

An instruction is executed as if it had been fetched at the program counter.
Only calls and returns can fault, and then nothing else happens. -/

namespace Chip8

/-! ## Values computed from the registers -/

/-- Whether a skip instruction skips. -/
def Condition.holds (registers : RegisterFile) : Condition → Bool
  | .equalsConstant x value => registers.read x == value
  | .differsFromConstant x value => registers.read x != value
  | .equalsRegister x y => registers.read x == registers.read y
  | .differsFromRegister x y => registers.read x != registers.read y

/-- The value that an assignment to `x` stores. -/
def Source.value (registers : RegisterFile) (x : Register) : Source → UInt8
  | .constant value => value
  | .add value => registers.read x + value
  | .copy y => registers.read y
  | .or y => registers.read x ||| registers.read y
  | .and y => registers.read x &&& registers.read y
  | .xor y => registers.read x ^^^ registers.read y

/-- A byte and the bit that goes to the flag register. -/
structure Flagged where
  value : UInt8
  flag : UInt8
deriving DecidableEq

/-- The result of an operation on `x`. The flag is the carry of a sum, whether
a difference is above zero, or the bit that a shift moves out. -/
def Arithmetic.result (registers : RegisterFile) (x : Register) :
    Arithmetic → Flagged
  | .add y =>
      let sum := registers.read x + registers.read y
      ⟨sum, if sum < registers.read x then 1 else 0⟩
  | .subtract y =>
      ⟨registers.read x - registers.read y,
        if registers.read y < registers.read x then 1 else 0⟩
  | .subtractFrom y =>
      ⟨registers.read y - registers.read x,
        if registers.read x < registers.read y then 1 else 0⟩
  | .shiftRight => ⟨registers.read x / 2, registers.read x % 2⟩
  | .shiftLeft => ⟨registers.read x * 2, registers.read x / 128⟩

/-- The flag is written last, so it wins where `x` is the flag register. -/
def RegisterFile.writeFlagged (registers : RegisterFile) (x : Register)
    (result : Flagged) : RegisterFile :=
  (registers.write x result.value).write .flag result.flag

namespace Machine

/-! ## Moving on -/

def goTo (machine : Machine) (pc : UInt16) : Machine := { machine with pc }

/-- Continue with the next instruction. -/
def advance (machine : Machine) : Machine :=
  machine.goTo (following machine.pc)

/-- Continue with the instruction after the next one if the condition holds. -/
def advanceSkipping (machine : Machine) (condition : Condition) : Machine :=
  if condition.holds machine.registers then
    machine.goTo (following (following machine.pc))
  else
    machine.advance

@[simp] theorem memory_goTo (machine : Machine) (pc : UInt16) :
    (machine.goTo pc).memory = machine.memory := rfl

@[simp] theorem registers_goTo (machine : Machine) (pc : UInt16) :
    (machine.goTo pc).registers = machine.registers := rfl

@[simp] theorem index_goTo (machine : Machine) (pc : UInt16) :
    (machine.goTo pc).index = machine.index := rfl

@[simp] theorem pc_goTo (machine : Machine) (pc : UInt16) :
    (machine.goTo pc).pc = pc := rfl

@[simp] theorem stack_goTo (machine : Machine) (pc : UInt16) :
    (machine.goTo pc).stack = machine.stack := rfl

@[simp] theorem advance_eq_goTo (machine : Machine) :
    machine.advance = machine.goTo (following machine.pc) := rfl

@[simp] theorem advanceSkipping_eq_goTo (machine : Machine) (condition : Condition) :
    machine.advanceSkipping condition =
      machine.goTo (if condition.holds machine.registers then
        following (following machine.pc) else following machine.pc) := by
  unfold advanceSkipping
  split <;> rfl

/-! ## Calls and returns -/

def enterRoutine (machine : Machine) (target : Address) : Outcome :=
  let returnAddress := following machine.pc
  match machine.stack.push? returnAddress with
  | none => .stopped machine (.stackOverflow returnAddress)
  | some stack =>
      .reporting (.called target returnAddress)
        (.quiet { machine with stack, pc := wrap target.word })

def leaveRoutine (machine : Machine) : Outcome :=
  match machine.stack.pop? with
  | none => .stopped machine .stackUnderflow
  | some (address, stack) =>
      .reporting (.returned address) (.quiet { machine with stack, pc := address })

/-! A call and a return fail on the one stack that leaves them no choice; on
every other stack they succeed. -/

theorem enterRoutine_of_full {machine : Machine} (full : machine.stack.depth = 16)
    (target : Address) :
    machine.enterRoutine target =
      .stopped machine (.stackOverflow (following machine.pc)) := by
  have unpushed : machine.stack.push? (following machine.pc) = none :=
    CallStack.push?_eq_none_iff.mpr full
  simp only [enterRoutine, unpushed]

theorem enterRoutine_of_room {machine : Machine} (room : machine.stack.depth < 16)
    (target : Address) :
    ∃ stack : CallStack,
      stack.toList = machine.stack.toList ++ [following machine.pc] ∧
      machine.enterRoutine target =
        .reporting (.called target (following machine.pc))
          (.quiet { machine with stack, pc := wrap target.word }) := by
  cases pushed : machine.stack.push? (following machine.pc) with
  | none =>
      have full := CallStack.push?_eq_none_iff.mp pushed
      omega
  | some stack =>
      exact ⟨stack, CallStack.toList_of_push? pushed, by
        simp only [enterRoutine, pushed]⟩

theorem leaveRoutine_of_empty {machine : Machine} (empty : machine.stack.depth = 0) :
    machine.leaveRoutine = .stopped machine .stackUnderflow := by
  have unpopped := CallStack.pop?_eq_none_iff.mpr empty
  simp only [leaveRoutine, unpopped]

theorem leaveRoutine_of_occupied {machine : Machine}
    (occupied : 0 < machine.stack.depth) :
    ∃ (address : UInt16) (stack : CallStack),
      machine.stack.toList = stack.toList ++ [address] ∧
      machine.leaveRoutine =
        .reporting (.returned address)
          (.quiet { machine with stack, pc := address }) := by
  cases popped : machine.stack.pop? with
  | none =>
      have empty := CallStack.pop?_eq_none_iff.mp popped
      omega
  | some top =>
      rcases top with ⟨address, stack⟩
      exact ⟨address, stack, CallStack.toList_of_pop? popped, by
        simp only [leaveRoutine, popped]⟩

/-! ## Sprites -/

/-- The bytes from the index register on, one for each row, as far as memory
reaches. -/
def sprite (machine : Machine) (rows : UInt8) : List UInt8 :=
  let start := machine.index.toNat
  machine.memory.window start (min (start + rows.toNat) memorySize)

/-! ## All instructions -/

def execute (machine : Machine) : Instruction → Outcome
  | .nop => .quiet machine.advance
  | .clearScreen => .signalling .clearScreen (.quiet machine.advance)
  | .ret => machine.leaveRoutine
  | .jump target => .quiet (machine.goTo (wrap target.word))
  | .call target => machine.enterRoutine target
  | .jumpOffset target =>
      .quiet (machine.goTo
        (wrap (target.word + (machine.registers.read ⟨0⟩).toUInt16)))
  | .skipIf condition => .quiet (machine.advanceSkipping condition)
  | .assign x source =>
      let value := source.value machine.registers x
      .quiet { machine.advance with registers := machine.registers.write x value }
  | .compute x operation =>
      let result := operation.result machine.registers x
      .quiet { machine.advance with
        registers := machine.registers.writeFlagged x result }
  | .setIndex target =>
      .quiet { machine.advance with index := wrap target.word }
  | .draw x y rows =>
      .signalling
        (.drawSprite (machine.registers.read x) (machine.registers.read y)
          (machine.sprite rows))
        (.quiet machine.advance)
  | .delegate request =>
      .signalling (.delegate request machine.registers machine.index)
        (.quiet machine.advance)
  | .unknown opcode =>
      .reporting (.skippedUnknown opcode machine.pc) (.quiet machine.advance)

/-- Execute instructions in order, up to the first one that faults. -/
def executeAll (machine : Machine) : List Instruction → Outcome
  | [] => .quiet machine
  | instruction :: rest =>
      (machine.execute instruction).andThen fun machine => machine.executeAll rest

end Machine

end Chip8
