import Chip8.Console
import Chip8.Proofs.Bounds

/-! # Guarded operations

Sums of words, memory ranges, stack slots and the depth of the stack are partial:
outside their domain they break down. Here every operation is computed once
more with primitives that tell when this happens. Within the bounds that
machines keep, it never does, and both ways to compute agree. Registers need no
guard, because a register operand names one of sixteen by its type. -/

namespace Chip8

/-- The ways in which a computation can break down. -/
inductive Breakdown where
  /-- A sum does not fit into sixteen bits. -/
  | sumTooLarge (left right : UInt16)
  | cellOutside (location : Nat)
  /-- A range of cells runs backwards, ends outside memory, or has another
  length than the bytes meant for it. -/
  | rangeOutside (start stop : Nat)
  | slotOutside (position : Nat)
  /-- An empty stack is to become less deep. -/
  | depthBelowZero
deriving DecidableEq

namespace Guarded

/-! ## Primitives -/

def sum (left right : UInt16) : Except Breakdown UInt16 :=
  if left.toNat + right.toNat < UInt16.size then
    .ok (left + right)
  else
    .error (.sumTooLarge left right)

def cell (memory : Memory) (location : Nat) : Except Breakdown UInt8 :=
  if inside : location < memorySize then
    .ok memory.cells[location]
  else
    .error (.cellOutside location)

def window (memory : Memory) (start stop : Nat) : Except Breakdown (List UInt8) :=
  if start ≤ stop ∧ stop ≤ memorySize then
    .ok (memory.window start stop)
  else
    .error (.rangeOutside start stop)

def overwrite (memory : Memory) (start stop : Nat) (bytes : List UInt8) :
    Except Breakdown Memory :=
  if start ≤ stop ∧ stop ≤ memorySize ∧ stop - start = bytes.length then
    .ok (memory.write start bytes)
  else
    .error (.rangeOutside start stop)

def readSlot (slots : Vector UInt16 16) (position : Nat) : Except Breakdown UInt16 :=
  if inside : position < 16 then
    .ok slots[position]
  else
    .error (.slotOutside position)

def writeSlot (slots : Vector UInt16 16) (position : Nat) (address : UInt16) :
    Except Breakdown (Vector UInt16 16) :=
  if inside : position < 16 then
    .ok (slots.set position address)
  else
    .error (.slotOutside position)

def lower : (depth : Nat) → Except Breakdown { below : Nat // below < depth }
  | 0 => .error .depthBelowZero
  | below + 1 => .ok ⟨below, Nat.lt_succ_self below⟩

/-! ## Operations -/

def following (pc : UInt16) : Except Breakdown UInt16 := do
  let sum ← sum pc 2
  return wrap sum

def push? (stack : CallStack) (address : UInt16) :
    Except Breakdown (Option CallStack) :=
  if full : stack.depth = 16 then
    return none
  else do
    let slots ← writeSlot stack.slots stack.depth address
    return some ⟨slots, stack.depth + 1, by have := stack.depth_le; omega⟩

def pop? (stack : CallStack) : Except Breakdown (Option (UInt16 × CallStack)) :=
  if stack.depth = 0 then
    return none
  else do
    let depth ← lower stack.depth
    let address ← readSlot stack.slots depth
    return some (address, ⟨stack.slots, depth,
      Nat.le_trans (Nat.le_of_lt depth.property) stack.depth_le⟩)

/-- Whatever the instruction is, both possible successors of the program counter
are computed first. -/
def execute (machine : Machine) (instruction : Instruction) :
    Except Breakdown Outcome := do
  let next ← following machine.pc
  let skipped ← following next
  match instruction with
  | .call target =>
      match ← push? machine.stack next with
      | none => return .stopped machine (.stackOverflow next)
      | some stack =>
          return .reporting (.called target next)
            (.quiet { machine with stack, pc := wrap target.word })
  | .ret =>
      match ← pop? machine.stack with
      | none => return .stopped machine .stackUnderflow
      | some (address, stack) =>
          return .reporting (.returned address)
            (.quiet { machine with stack, pc := address })
  | .skipIf condition =>
      return .quiet (machine.goTo
        (if condition.holds machine.registers then skipped else next))
  | .draw x y rows =>
      let start := machine.index.toNat
      let sprite ← window machine.memory start (min (start + rows.toNat) memorySize)
      return .signalling
        (.drawSprite (machine.registers.read x) (machine.registers.read y) sprite)
        (.quiet (machine.goTo next))
  | other => return machine.execute other

def executeAll (machine : Machine) : List Instruction → Except Breakdown Outcome
  | [] => return .quiet machine
  | instruction :: rest => do
      let first ← execute machine instruction
      match first.fault? with
      | some _ => return first
      | none =>
          let second ← executeAll first.machine rest
          return first.andThen fun _ => second

def fetch (machine : Machine) : Except Breakdown (Except Fault Opcode) :=
  let location := machine.pc.toNat
  if memorySize ≤ location + 1 then
    return .error (.outOfBounds location 2)
  else do
    let high ← cell machine.memory location
    let low ← cell machine.memory (location + 1)
    return .ok (.ofBytes high low)

def step (machine : Machine) : Except Breakdown Outcome := do
  match ← fetch machine with
  | .error fault => return .stopped machine fault
  | .ok opcode =>
      let outcome ← execute machine (.decode opcode)
      return outcome.reporting (.fetched machine.pc opcode)

def load (machine : Machine) (program : List UInt8) : Except Breakdown Outcome :=
  let start := programStart.toNat
  let stop := start + program.length
  if memorySize < stop then
    return .stopped machine (.outOfBounds start program.length)
  else do
    let memory ← overwrite machine.memory start stop program
    return .reporting (.loaded program.length) (.quiet { machine with memory })

def perform (machine : Machine) : Operation → Except Breakdown Outcome
  | .load program => load machine program
  | .step => step machine
  | .execute instruction => execute machine instruction
  | .executeAll instructions => executeAll machine instructions

/-! ## Agreement -/

theorem following_eq {pc : UInt16} (inside : pc.toNat < memorySize) :
    following pc = .ok (Chip8.following pc) := by
  have fits : pc.toNat + (2 : UInt16).toNat < UInt16.size := by
    rw [memorySize] at inside
    simp only [UInt16.reduceToNat, UInt16.size]
    omega
  rw [following, sum, if_pos fits]
  rfl

theorem push?_eq (stack : CallStack) (address : UInt16) :
    push? stack address = .ok (stack.push? address) := by
  have bound := stack.depth_le
  rcases Nat.lt_or_eq_of_le bound with room | full
  · have notFull : stack.depth ≠ 16 := by omega
    rw [push?, dif_neg notFull, writeSlot, dif_pos room, CallStack.push?, dif_pos room]
    rfl
  · rw [push?, dif_pos full, CallStack.push?_eq_none_iff.mpr full]
    rfl

theorem pop?_eq (stack : CallStack) : pop? stack = .ok stack.pop? := by
  rcases stack with ⟨slots, depth, bound⟩
  cases depth with
  | zero => rfl
  | succ below =>
      have inside : below < 16 := bound
      simp [pop?, lower, readSlot, inside, CallStack.pop?, pure, Except.pure, bind,
        Except.bind]

theorem execute_eq {machine : Machine} (bounded : machine.Bounded)
    (instruction : Instruction) :
    execute machine instruction = .ok (machine.execute instruction) := by
  have next := following_eq bounded.pc_lt
  have nextInside : (Chip8.following machine.pc).toNat < memorySize := toNat_wrap_lt _
  have skipped := following_eq nextInside
  rw [execute, next]
  simp only [bind, Except.bind, skipped]
  cases instruction with
  | call target =>
      simp only [push?_eq, Machine.execute, Machine.enterRoutine]
      cases machine.stack.push? (Chip8.following machine.pc) <;> rfl
  | ret =>
      simp only [pop?_eq, Machine.execute, Machine.leaveRoutine]
      cases machine.stack.pop? <;> rfl
  | skipIf condition =>
      rw [Machine.execute, Machine.advanceSkipping_eq_goTo]
      rfl
  | draw x y rows =>
      have ordered : machine.index.toNat ≤
          min (machine.index.toNat + rows.toNat) memorySize := by
        have inside := bounded.index_lt
        omega
      have ends : min (machine.index.toNat + rows.toNat) memorySize ≤ memorySize :=
        Nat.min_le_right _ _
      simp only [window, ordered, ends, and_self, if_true]
      rfl
  | _ => rfl

theorem executeAll_eq {machine : Machine} (bounded : machine.Bounded)
    (instructions : List Instruction) :
    executeAll machine instructions = .ok (machine.executeAll instructions) := by
  induction instructions generalizing machine with
  | nil => rfl
  | cons instruction rest induction =>
      have later := induction (bounded.execute instruction)
      rw [executeAll, execute_eq bounded, Machine.executeAll]
      simp only [bind, Except.bind]
      cases faulted : (machine.execute instruction).fault? with
      | some fault =>
          rw [Outcome.andThen_of_fault faulted]
          rfl
      | none =>
          simp only [later, Outcome.andThen_of_success faulted]
          rfl

theorem fetch_eq (machine : Machine) : fetch machine = .ok machine.fetch := by
  rcases Nat.lt_or_ge (machine.pc.toNat + 1) memorySize with inside | outside
  · have here : machine.pc.toNat < memorySize := by omega
    have notOutside : ¬ memorySize ≤ machine.pc.toNat + 1 := by omega
    simp [fetch, cell, Machine.fetch_of_inside, Memory.read, inside, here, notOutside,
      pure, Except.pure, bind, Except.bind]
  · rw [Machine.fetch_of_outside outside, fetch, if_pos outside]
    rfl

theorem step_eq {machine : Machine} (bounded : machine.Bounded) :
    step machine = .ok machine.step := by
  rw [step, fetch_eq]
  simp only [bind, Except.bind]
  cases fetched : machine.fetch with
  | error fault =>
      rw [Machine.step_of_unfetched fetched]
      rfl
  | ok opcode =>
      rw [Machine.step_of_fetched fetched]
      simp only [execute_eq bounded]
      rfl

theorem load_eq (machine : Machine) (program : List UInt8) :
    load machine program = .ok (machine.load program) := by
  rcases Nat.lt_or_ge memorySize (programStart.toNat + program.length) with
    excess | fitting
  · rw [Machine.load_of_excess machine excess, load, if_pos excess]
    rfl
  · have notExcess : ¬ memorySize < programStart.toNat + program.length := by omega
    rw [Machine.load_of_fitting machine fitting, load, if_neg notExcess, overwrite,
      if_pos ⟨Nat.le_add_right _ _, fitting, Nat.add_sub_cancel_left _ _⟩]
    rfl

theorem perform_eq {machine : Machine} (bounded : machine.Bounded)
    (operation : Operation) :
    perform machine operation = .ok (machine.perform operation) := by
  cases operation with
  | load program => exact load_eq machine program
  | step => exact step_eq bounded
  | execute instruction => exact execute_eq bounded instruction
  | executeAll instructions => exact executeAll_eq bounded instructions

end Guarded

namespace Console

universe u

/-- Whatever a machine has been through, its words stay within their bounds, and
no further operation breaks down. -/
theorem performAll_bounded_guarded {State : Type u} (peripheral : Peripheral State)
    (state : State) (operations : List Operation) :
    let machine := ((initial state).performAll peripheral operations).machine
    machine.Bounded ∧
      ∀ operation, Guarded.perform machine operation = .ok (machine.perform operation) := by
  intro machine
  have bounded : machine.Bounded := by
    rw [show machine = Machine.initial.performAll operations from
      machine_performAll peripheral (initial state) operations]
    exact Machine.Bounded.initial.performAll operations
  exact ⟨bounded, Guarded.perform_eq bounded⟩

end Console

end Chip8
