import Chip8.Proofs.Execution
import Chip8.Proofs.Observation

/-! # The call stack as a list

A machine that keeps its return addresses in a list, and is the same in all
other respects, cannot be told from a machine that keeps them in slots. So it
does not show what returns have left behind in slots that are free again. -/

namespace Chip8

/-! ## Lists of return addresses -/

/-- Return addresses, oldest first, as many as fit on a call stack. -/
structure AddressList where
  addresses : List UInt16
  length_le : addresses.length ≤ 16
deriving DecidableEq

namespace AddressList

def empty : AddressList := ⟨[], by decide⟩

def push? (list : AddressList) (address : UInt16) : Option AddressList :=
  if room : list.addresses.length < 16 then
    some ⟨list.addresses ++ [address], by rwa [List.length_append]⟩
  else
    none

/-- The last address and the list before it. -/
def pop? (list : AddressList) : Option (UInt16 × AddressList) :=
  match list.addresses.getLast? with
  | none => none
  | some address =>
      some (address, ⟨list.addresses.dropLast,
        Nat.le_trans (List.dropLast_sublist _).length_le list.length_le⟩)

/-- The position of the last address. -/
def pointer? (list : AddressList) : Option Nat :=
  match list.addresses.length with
  | 0 => none
  | below + 1 => some below

end AddressList

namespace CallStack

/-- What the occupied slots hold. -/
def listed (stack : CallStack) : AddressList :=
  ⟨stack.toList, by rw [length_toList]; exact stack.depth_le⟩

theorem listed_push? (stack : CallStack) (address : UInt16) :
    (stack.push? address).map listed = stack.listed.push? address := by
  cases pushed : stack.push? address with
  | none =>
      have full := push?_eq_none_iff.mp pushed
      have noRoom : ¬ stack.listed.addresses.length < 16 := by
        rw [listed, length_toList]
        omega
      rw [AddressList.push?, dif_neg noRoom]
      rfl
  | some larger =>
      have shape := toList_of_push? pushed
      have room : stack.listed.addresses.length < 16 := by
        have deeper := depth_of_toList_append shape
        have bound := larger.depth_le
        rw [listed, length_toList]
        omega
      rw [AddressList.push?, dif_pos room, Option.map_some, Option.some.injEq,
        AddressList.mk.injEq]
      exact shape

theorem listed_pop? (stack : CallStack) :
    stack.pop?.map (fun top => (top.1, top.2.listed)) = stack.listed.pop? := by
  cases popped : stack.pop? with
  | none =>
      have empty := pop?_eq_none_iff.mp popped
      have nothing : stack.listed.addresses = [] := by
        rw [← List.length_eq_zero_iff, listed, length_toList]
        exact empty
      simp only [AddressList.pop?, nothing, List.getLast?_nil, Option.map_none]
  | some top =>
      rcases top with ⟨address, smaller⟩
      have shape : stack.listed.addresses = smaller.toList ++ [address] :=
        toList_of_pop? popped
      simp only [AddressList.pop?, shape, List.getLast?_concat, List.dropLast_concat,
        Option.map_some]
      rfl

theorem pointer?_listed (stack : CallStack) : stack.listed.pointer? = stack.pointer? := by
  rw [AddressList.pointer?, listed, length_toList]
  rfl

end CallStack

/-! ## Machines with a list -/

structure ListMachine where
  memory : Memory
  registers : RegisterFile
  index : UInt16
  pc : UInt16
  stack : AddressList
deriving DecidableEq

structure ListMachine.Outcome where
  machine : ListMachine
  fault? : Option Fault
  events : List Event
  signals : List Signal
deriving DecidableEq

/-- A machine that has a list in place of its call stack. -/
def Machine.withList (machine : Machine) (stack : AddressList) : ListMachine where
  memory := machine.memory
  registers := machine.registers
  index := machine.index
  pc := machine.pc
  stack := stack

def Outcome.withList (outcome : Outcome) (stack : AddressList) : ListMachine.Outcome where
  machine := outcome.machine.withList stack
  fault? := outcome.fault?
  events := outcome.events
  signals := outcome.signals

namespace ListMachine

namespace Outcome

def stopped (machine : ListMachine) (fault : Fault) : Outcome :=
  ⟨machine, some fault, [], []⟩

def reporting (event : Event) (outcome : Outcome) : Outcome :=
  { outcome with events := event :: outcome.events }

def andThen (first : Outcome) (second : ListMachine → Outcome) : Outcome :=
  match first.fault? with
  | some _ => first
  | none =>
      let rest := second first.machine
      { rest with
        events := first.events ++ rest.events
        signals := first.signals ++ rest.signals }

end Outcome

def initial : ListMachine := Machine.initial.withList .empty

/-- The machine without its list, for what does not concern the call stack. -/
def unlisted (machine : ListMachine) : Machine where
  memory := machine.memory
  registers := machine.registers
  index := machine.index
  pc := machine.pc
  stack := .empty

def execute (machine : ListMachine) : Instruction → Outcome
  | .call target =>
      let returnAddress := following machine.pc
      match machine.stack.push? returnAddress with
      | none => .stopped machine (.stackOverflow returnAddress)
      | some stack =>
          .reporting (.called target returnAddress)
            ⟨{ machine with stack, pc := wrap target.word }, none, [], []⟩
  | .ret =>
      match machine.stack.pop? with
      | none => .stopped machine .stackUnderflow
      | some (address, stack) =>
          .reporting (.returned address) ⟨{ machine with stack, pc := address }, none, [], []⟩
  | other => (machine.unlisted.execute other).withList machine.stack

def executeAll (machine : ListMachine) : List Instruction → Outcome
  | [] => ⟨machine, none, [], []⟩
  | instruction :: rest =>
      (machine.execute instruction).andThen fun machine => machine.executeAll rest

def load (machine : ListMachine) (program : List UInt8) : Outcome :=
  (machine.unlisted.load program).withList machine.stack

def step (machine : ListMachine) : Outcome :=
  match machine.unlisted.fetch with
  | .error fault => .stopped machine fault
  | .ok opcode =>
      .reporting (.fetched machine.pc opcode) (machine.execute (.decode opcode))

def perform (machine : ListMachine) : Operation → Outcome
  | .load program => machine.load program
  | .step => machine.step
  | .execute instruction => machine.execute instruction
  | .executeAll instructions => machine.executeAll instructions

def outcomes (machine : ListMachine) : List Operation → List Outcome
  | [] => []
  | operation :: rest =>
      let outcome := machine.perform operation
      outcome :: outcome.machine.outcomes rest

/-- The register dump, with the list in its last line. -/
def dump (machine : ListMachine) : String :=
  let word (value : UInt16) := Text.hexLiteral 3 value.toNat
  let register (number : Nat) :=
    "V" ++ String.singleton number.digitChar.toUpper ++ ": " ++
      Text.hexLiteral 2 (machine.registers.read ⟨UInt8.ofNat number⟩).toNat
  let row (first : Nat) := "  ".intercalate ((List.range' first 4).map register)
  let addresses := machine.stack.addresses.map fun address => " " ++ word address
  String.join
    (["PC: " ++ word machine.pc ++ "  I: " ++ word machine.index,
      row 0, row 4, row 8, row 12,
      "Stack:" ++ String.join addresses].map fun line => line ++ "\n")

def Outcome.observe (outcome : Outcome) : Observation where
  fault? := outcome.fault?
  pc := outcome.machine.pc
  index := outcome.machine.index
  registers := outcome.machine.registers
  memory := outcome.machine.memory
  addresses := outcome.machine.stack.addresses
  pointer? := outcome.machine.stack.pointer?
  dump := outcome.machine.dump
  events := outcome.events
  signals := outcome.signals

def observations (machine : ListMachine) (operations : List Operation) :
    List Observation :=
  (machine.outcomes operations).map Outcome.observe

end ListMachine

/-! ## Simulation

The list machine does to the occupied slots of a machine what the machine does
to its slots. -/

def Machine.listed (machine : Machine) : ListMachine := machine.withList machine.stack.listed

def Outcome.listed (outcome : Outcome) : ListMachine.Outcome :=
  outcome.withList outcome.machine.stack.listed

@[simp] theorem Outcome.machine_listed (outcome : Outcome) :
    outcome.listed.machine = outcome.machine.listed := rfl

@[simp] theorem Outcome.fault?_listed (outcome : Outcome) :
    outcome.listed.fault? = outcome.fault? := rfl

theorem Outcome.listed_andThen (first : Outcome) {second : Machine → Outcome}
    {secondListed : ListMachine → ListMachine.Outcome}
    (simulated : ∀ machine, (second machine).listed = secondListed machine.listed) :
    (first.andThen second).listed = first.listed.andThen secondListed := by
  rw [ListMachine.Outcome.andThen, fault?_listed, machine_listed, ← simulated]
  cases faulted : first.fault? with
  | some fault => rw [andThen_of_fault faulted]
  | none =>
      rw [andThen_of_success faulted]
      rfl

theorem Outcome.observe_listed (outcome : Outcome) :
    outcome.listed.observe = outcome.observe := by
  have pointer : outcome.machine.listed.stack.pointer? = outcome.machine.stack.pointer? :=
    outcome.machine.stack.pointer?_listed
  rw [ListMachine.Outcome.observe, machine_listed, pointer]
  rfl

namespace Machine

theorem listed_execute (machine : Machine) (instruction : Instruction) :
    (machine.execute instruction).listed = machine.listed.execute instruction := by
  cases instruction with
  | call target =>
      have pushed : machine.listed.stack.push? (following machine.listed.pc) =
          (machine.stack.push? (following machine.pc)).map CallStack.listed :=
        (machine.stack.listed_push? (following machine.pc)).symm
      rw [execute, enterRoutine, ListMachine.execute, pushed]
      cases machine.stack.push? (following machine.pc) <;> rfl
  | ret =>
      have popped : machine.listed.stack.pop? =
          machine.stack.pop?.map (fun top => (top.1, top.2.listed)) :=
        machine.stack.listed_pop?.symm
      rw [execute, leaveRoutine, ListMachine.execute, popped]
      cases machine.stack.pop? <;> rfl
  | skipIf condition =>
      change (machine.execute (.skipIf condition)).listed =
        (machine.listed.unlisted.execute (.skipIf condition)).withList machine.stack.listed
      rw [execute, execute, advanceSkipping_eq_goTo, advanceSkipping_eq_goTo]
      rfl
  | _ => rfl

theorem listed_executeAll (machine : Machine) (instructions : List Instruction) :
    (machine.executeAll instructions).listed = machine.listed.executeAll instructions := by
  induction instructions generalizing machine with
  | nil => rfl
  | cons instruction rest induction =>
      rw [executeAll, ListMachine.executeAll, ← listed_execute]
      exact Outcome.listed_andThen _ induction

theorem listed_load (machine : Machine) (program : List UInt8) :
    (machine.load program).listed = machine.listed.load program := by
  rw [ListMachine.load, load, load]
  split <;> rfl

theorem listed_step (machine : Machine) :
    machine.step.listed = machine.listed.step := by
  have fetch : machine.listed.unlisted.fetch = machine.fetch := rfl
  rw [ListMachine.step, fetch]
  cases fetched : machine.fetch with
  | error fault =>
      rw [step_of_unfetched fetched]
      rfl
  | ok opcode =>
      rw [step_of_fetched fetched]
      simp only [← listed_execute]
      rfl

theorem listed_perform (machine : Machine) (operation : Operation) :
    (machine.perform operation).listed = machine.listed.perform operation := by
  cases operation with
  | load program => exact machine.listed_load program
  | step => exact machine.listed_step
  | execute instruction => exact machine.listed_execute instruction
  | executeAll instructions => exact machine.listed_executeAll instructions

theorem observations_listed (machine : Machine) (operations : List Operation) :
    machine.listed.observations operations = machine.observations operations := by
  induction operations generalizing machine with
  | nil => rfl
  | cons operation rest induction =>
      rw [observations, outcomes, List.map_cons, ListMachine.observations,
        ListMachine.outcomes, List.map_cons, ← listed_perform, Outcome.observe_listed]
      exact congrArg _ (induction _)

/-! ## Free slots -/

/-- Two machines that differ at most in slots that are free. -/
structure EqualButFreeSlots (left right : Machine) : Prop where
  memory : left.memory = right.memory
  registers : left.registers = right.registers
  index : left.index = right.index
  pc : left.pc = right.pc
  depth : left.stack.depth = right.stack.depth
  occupied : ∀ position < left.stack.depth,
    left.stack.slots[position]? = right.stack.slots[position]?

theorem EqualButFreeSlots.listed_eq {left right : Machine}
    (equal : left.EqualButFreeSlots right) : left.listed = right.listed := by
  have addresses : left.stack.toList = right.stack.toList := by
    apply List.ext_getElem?
    intro position
    rw [CallStack.toList, CallStack.toList, ← equal.depth, List.getElem?_take,
      List.getElem?_take]
    split
    · simpa using equal.occupied position ‹_›
    · rfl
  have stack : left.stack.listed = right.stack.listed := AddressList.mk.injEq _ _ _ _ ▸ addresses
  rw [listed, listed, stack, withList, withList, equal.memory, equal.registers, equal.index,
    equal.pc]

/-- A machine with a list in place of the call stack shows the same as a machine
with slots, whatever is done to both. Two machines with slots show the same as
soon as they agree in everything but free slots. -/
theorem call_stack_shows_only_its_list (operations : List Operation) :
    ListMachine.initial.observations operations = initial.observations operations ∧
      ∀ left right : Machine, left.EqualButFreeSlots right →
        left.observations operations = right.observations operations := by
  constructor
  · exact initial.observations_listed operations
  · intro left right equal
    rw [← left.observations_listed, ← right.observations_listed, equal.listed_eq]

/-- A return has left its address behind in the second slot. -/
theorem call_stack_shows_only_its_list_after_return :
    let left := (initial.executeAll [.call ⟨0x300⟩, .call ⟨0x400⟩, .ret]).machine
    let right := (initial.executeAll [.call ⟨0x300⟩, .nop]).machine
    let operations : List Operation :=
      [.step, .executeAll [.ret, .ret], .execute (.call ⟨0x500⟩), .load [0x00, 0xEE], .step]
    left.EqualButFreeSlots right ∧ left.stack.slots[1] ≠ right.stack.slots[1] ∧
      left.observations operations = right.observations operations := by
  intro left right operations
  have equal : left.EqualButFreeSlots right :=
    { memory := rfl
      registers := rfl
      index := rfl
      pc := rfl
      depth := rfl
      occupied := by decide }
  have different : left.stack.slots[1] ≠ right.stack.slots[1] := by decide
  exact ⟨equal, different,
    (call_stack_shows_only_its_list operations).2 left right equal⟩

end Machine

end Chip8
