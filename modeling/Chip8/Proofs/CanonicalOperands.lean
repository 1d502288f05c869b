import Chip8.Proofs.Wired

/-! # Operands that count

Of an address twelve bits count, of a register number four. Instructions whose
operands are reduced to these bits do to the machine what the given ones do. The
difference is seen only where operands are passed on: in the requests that go to
the peripheral, and in the log of calls. -/

namespace Chip8

universe u

/-! ## Canonical operands -/

def Address.canonical (target : Address) : Address := ⟨target.word % 0x1000⟩

def Register.canonical (register : Register) : Register := ⟨register.number % 0x10⟩

def Condition.canonical : Condition → Condition
  | .equalsConstant x value => .equalsConstant x.canonical value
  | .differsFromConstant x value => .differsFromConstant x.canonical value
  | .equalsRegister x y => .equalsRegister x.canonical y.canonical
  | .differsFromRegister x y => .differsFromRegister x.canonical y.canonical

def Source.canonical : Source → Source
  | .constant value => .constant value
  | .add value => .add value
  | .copy y => .copy y.canonical
  | .or y => .or y.canonical
  | .and y => .and y.canonical
  | .xor y => .xor y.canonical

def Arithmetic.canonical : Arithmetic → Arithmetic
  | .add y => .add y.canonical
  | .subtract y => .subtract y.canonical
  | .subtractFrom y => .subtractFrom y.canonical
  | .shiftRight => .shiftRight
  | .shiftLeft => .shiftLeft

def Request.canonical : Request → Request
  | .machineRoutine target => .machineRoutine target.canonical
  | .random x mask => .random x.canonical mask
  | .skipIfKeyDown x => .skipIfKeyDown x.canonical
  | .skipIfKeyUp x => .skipIfKeyUp x.canonical
  | .readDelayTimer x => .readDelayTimer x.canonical
  | .awaitKey x => .awaitKey x.canonical
  | .setDelayTimer x => .setDelayTimer x.canonical
  | .setSoundTimer x => .setSoundTimer x.canonical
  | .addToIndex x => .addToIndex x.canonical
  | .pointToGlyph x => .pointToGlyph x.canonical
  | .storeDecimal x => .storeDecimal x.canonical
  | .saveRegisters x => .saveRegisters x.canonical
  | .loadRegisters x => .loadRegisters x.canonical

/-- Addresses are reduced modulo 4096 and register numbers modulo 16. Constants,
numbers of rows and opcodes stay as they are. -/
def Instruction.canonical : Instruction → Instruction
  | .nop => .nop
  | .clearScreen => .clearScreen
  | .ret => .ret
  | .jump target => .jump target.canonical
  | .call target => .call target.canonical
  | .jumpOffset target => .jumpOffset target.canonical
  | .skipIf condition => .skipIf condition.canonical
  | .assign x source => .assign x.canonical source.canonical
  | .compute x operation => .compute x.canonical operation.canonical
  | .setIndex target => .setIndex target.canonical
  | .draw x y rows => .draw x.canonical y.canonical rows
  | .delegate request => .delegate request.canonical
  | .unknown opcode => .unknown opcode

example :
    (Instruction.draw ⟨0x21⟩ ⟨0xF2⟩ 0xFF).canonical = .draw ⟨0x1⟩ ⟨0x2⟩ 0xFF := rfl

/-! Operands are passed on in requests and in records of calls. -/

def Signal.canonical : Signal → Signal
  | .delegate request registers index => .delegate request.canonical registers index
  | other => other

def Event.canonical : Event → Event
  | .called target returnAddress => .called target.canonical returnAddress
  | other => other

def Outcome.canonical (outcome : Outcome) : Outcome :=
  { outcome with
    events := outcome.events.map Event.canonical
    signals := outcome.signals.map Signal.canonical }

/-! ## Uses of operands -/

@[simp] theorem wrap_canonical (target : Address) :
    wrap target.canonical.word = wrap target.word :=
  wrap_wrap target.word

/-- The sum may leave sixteen bits for one address and not for the other, but
4096 divides what is lost. -/
theorem wrap_canonical_add (target : Address) (offset : UInt8) :
    wrap (target.canonical.word + offset.toUInt16) =
      wrap (target.word + offset.toUInt16) := by
  apply UInt16.toNat_inj.mp
  rw [toNat_wrap_add, toNat_wrap_add, Address.canonical, UInt16.toNat_mod]
  exact Nat.mod_add_mod _ _ _

@[simp] theorem Register.index_canonical (register : Register) :
    register.canonical.index = register.index := by
  apply Fin.ext
  simp only [index, canonical, UInt8.toNat_mod]
  exact Nat.mod_mod _ _

namespace RegisterFile

@[simp] theorem read_canonical (registers : RegisterFile) (register : Register) :
    registers.read register.canonical = registers.read register :=
  registers.read_congr register.index_canonical

@[simp] theorem write_canonical (registers : RegisterFile) (register : Register)
    (value : UInt8) : registers.write register.canonical value =
      registers.write register value := by
  simp only [write, Register.index_canonical]

@[simp] theorem writeFlagged_canonical (registers : RegisterFile) (x : Register)
    (result : Flagged) :
    registers.writeFlagged x.canonical result = registers.writeFlagged x result := by
  rw [writeFlagged, writeFlagged, write_canonical]

end RegisterFile

section Values

variable (registers : RegisterFile)

@[simp] theorem Condition.holds_canonical (condition : Condition) :
    condition.canonical.holds registers = condition.holds registers := by
  cases condition <;> simp only [canonical, holds, RegisterFile.read_canonical]

@[simp] theorem Source.value_canonical (x : Register) (source : Source) :
    source.canonical.value registers x.canonical = source.value registers x := by
  cases source <;> simp only [canonical, value, RegisterFile.read_canonical]

@[simp] theorem Arithmetic.result_canonical (x : Register) (operation : Arithmetic) :
    operation.canonical.result registers x.canonical = operation.result registers x := by
  cases operation <;> simp only [canonical, result, RegisterFile.read_canonical]

end Values

/-! ## Instructions -/

namespace Outcome

theorem canonical_andThen (first : Outcome) (second : Machine → Outcome) :
    (first.andThen second).canonical =
      first.canonical.andThen fun machine => (second machine).canonical := by
  cases faulted : first.fault? with
  | some fault =>
      have stopped : first.canonical.fault? = some fault := faulted
      rw [andThen_of_fault faulted, andThen_of_fault stopped]
  | none =>
      have succeeded : first.canonical.fault? = none := faulted
      rw [andThen_of_success faulted, andThen_of_success succeeded]
      simp only [canonical, List.map_append]

end Outcome

namespace Machine

theorem enterRoutine_canonical (machine : Machine) (target : Address) :
    machine.enterRoutine target.canonical = (machine.enterRoutine target).canonical := by
  rw [enterRoutine, enterRoutine, wrap_canonical]
  cases machine.stack.push? (following machine.pc) <;> rfl

theorem canonical_leaveRoutine (machine : Machine) :
    machine.leaveRoutine.canonical = machine.leaveRoutine := by
  rw [leaveRoutine]
  cases machine.stack.pop? <;> rfl

theorem execute_canonical (machine : Machine) (instruction : Instruction) :
    machine.execute instruction.canonical = (machine.execute instruction).canonical := by
  cases instruction with
  | ret => exact machine.canonical_leaveRoutine.symm
  | call target => exact machine.enterRoutine_canonical target
  | jump target =>
      rw [Instruction.canonical, execute, execute, wrap_canonical]
      rfl
  | jumpOffset target =>
      rw [Instruction.canonical, execute, execute, wrap_canonical_add]
      rfl
  | skipIf condition =>
      rw [Instruction.canonical, execute, execute, advanceSkipping_eq_goTo,
        advanceSkipping_eq_goTo, Condition.holds_canonical]
      rfl
  | assign x source =>
      rw [Instruction.canonical, execute, execute, Source.value_canonical,
        RegisterFile.write_canonical]
      rfl
  | compute x operation =>
      rw [Instruction.canonical, execute, execute, Arithmetic.result_canonical,
        RegisterFile.writeFlagged_canonical]
      rfl
  | setIndex target =>
      rw [Instruction.canonical, execute, execute, wrap_canonical]
      rfl
  | draw x y rows =>
      rw [Instruction.canonical, execute, execute, RegisterFile.read_canonical,
        RegisterFile.read_canonical]
      rfl
  | _ => rfl

theorem executeAll_canonical (machine : Machine) (instructions : List Instruction) :
    machine.executeAll (instructions.map Instruction.canonical) =
      (machine.executeAll instructions).canonical := by
  induction instructions generalizing machine with
  | nil => rfl
  | cons instruction rest induction =>
      rw [List.map_cons, executeAll, executeAll, execute_canonical,
        Outcome.canonical_andThen]
      simp only [induction]

end Machine

/-- Instructions with canonical operands end with the same fault or none and leave
the same machine as the given ones, whatever peripheral there is. It is called
just as often, in the same order and with the same values; only the operands
inside of requests are canonical. So are, in the log, the targets of calls. -/
theorem Wired.canonical_operands_suffice {State : Type u} (peripheral : Peripheral State)
    (console : Console State) (instructions : List Instruction) :
    let given := Wired.executeAll peripheral console instructions
    let reduced :=
      Wired.executeAll peripheral console (instructions.map Instruction.canonical)
    reduced.fault? = given.fault? ∧ reduced.machine = given.machine ∧
      reduced.signals = given.signals.map Signal.canonical ∧
      reduced.state =
        peripheral.receiveAll console.state (given.signals.map Signal.canonical) ∧
      reduced.events = given.events.map Event.canonical := by
  intro given reduced
  have givenAfter : given =
      Wired.afterwards peripheral console.state
        (console.machine.executeAll instructions) :=
    Wired.executeAll_eq peripheral console instructions
  have reducedAfter : reduced =
      Wired.afterwards peripheral console.state
        (console.machine.executeAll instructions).canonical := by
    rw [← Machine.executeAll_canonical]
    exact Wired.executeAll_eq peripheral console _
  rw [givenAfter, reducedAfter]
  exact ⟨rfl, rfl, rfl, rfl, rfl⟩

/-- The sum of target and register leaves sixteen bits for the address that is
given, and not for the canonical one. -/
example :
    let machine := Machine.initial.performAll [.execute (.assign ⟨0⟩ (.constant 0xFF))]
    let given : Instruction := .jumpOffset ⟨0xFFF2⟩
    given.canonical = .jumpOffset ⟨0xFF2⟩ ∧ (machine.execute given).machine.pc = 0x0F1 ∧
      (machine.execute given.canonical).machine.pc = 0x0F1 := by
  decide +kernel

end Chip8
