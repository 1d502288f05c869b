import Chip8.CallStack
import Chip8.Event
import Chip8.Fault
import Chip8.Memory
import Chip8.Peripheral
import Chip8.RegisterFile

/-! # The machine and its outcomes

An operation on the machine is a function to an outcome: the machine
afterwards, the fault that stopped it, if any, and in order what it reported
and what it signalled to the peripheral. -/

namespace Chip8

structure Machine where
  memory : Memory
  registers : RegisterFile
  /-- The index register, from which sprites are read. -/
  index : UInt16
  /-- The program counter. -/
  pc : UInt16
  stack : CallStack
deriving DecidableEq

/-- A machine that is switched on: everything is zero, and the program counter
points at the place for programs. -/
def Machine.initial : Machine where
  memory := .zeroed
  registers := .zeroed
  index := 0
  pc := programStart
  stack := .empty

/-! ## Outcomes -/

structure Outcome where
  machine : Machine
  fault? : Option Fault
  events : List Event
  signals : List Signal
deriving DecidableEq

namespace Outcome

/-- Success without report or signal. -/
def quiet (machine : Machine) : Outcome := ⟨machine, none, [], []⟩

/-- A fault leaves the machine as it is and has no effects. -/
def stopped (machine : Machine) (fault : Fault) : Outcome :=
  ⟨machine, some fault, [], []⟩

def reporting (event : Event) (outcome : Outcome) : Outcome :=
  { outcome with events := event :: outcome.events }

def signalling (signal : Signal) (outcome : Outcome) : Outcome :=
  { outcome with signals := signal :: outcome.signals }

/-- Continue with a second operation unless the first one faulted. -/
def andThen (first : Outcome) (second : Machine → Outcome) : Outcome :=
  match first.fault? with
  | some _ => first
  | none =>
      let rest := second first.machine
      { rest with
        events := first.events ++ rest.events
        signals := first.signals ++ rest.signals }

/-! The parts of an outcome. -/

@[simp] theorem machine_quiet (machine : Machine) :
    (quiet machine).machine = machine := rfl

@[simp] theorem fault?_quiet (machine : Machine) :
    (quiet machine).fault? = none := rfl

@[simp] theorem events_quiet (machine : Machine) :
    (quiet machine).events = [] := rfl

@[simp] theorem signals_quiet (machine : Machine) :
    (quiet machine).signals = [] := rfl

@[simp] theorem machine_stopped (machine : Machine) (fault : Fault) :
    (stopped machine fault).machine = machine := rfl

@[simp] theorem fault?_stopped (machine : Machine) (fault : Fault) :
    (stopped machine fault).fault? = some fault := rfl

@[simp] theorem events_stopped (machine : Machine) (fault : Fault) :
    (stopped machine fault).events = [] := rfl

@[simp] theorem signals_stopped (machine : Machine) (fault : Fault) :
    (stopped machine fault).signals = [] := rfl

@[simp] theorem machine_reporting (event : Event) (outcome : Outcome) :
    (outcome.reporting event).machine = outcome.machine := rfl

@[simp] theorem fault?_reporting (event : Event) (outcome : Outcome) :
    (outcome.reporting event).fault? = outcome.fault? := rfl

@[simp] theorem events_reporting (event : Event) (outcome : Outcome) :
    (outcome.reporting event).events = event :: outcome.events := rfl

@[simp] theorem signals_reporting (event : Event) (outcome : Outcome) :
    (outcome.reporting event).signals = outcome.signals := rfl

@[simp] theorem machine_signalling (signal : Signal) (outcome : Outcome) :
    (outcome.signalling signal).machine = outcome.machine := rfl

@[simp] theorem fault?_signalling (signal : Signal) (outcome : Outcome) :
    (outcome.signalling signal).fault? = outcome.fault? := rfl

@[simp] theorem events_signalling (signal : Signal) (outcome : Outcome) :
    (outcome.signalling signal).events = outcome.events := rfl

@[simp] theorem signals_signalling (signal : Signal) (outcome : Outcome) :
    (outcome.signalling signal).signals = signal :: outcome.signals := rfl

/-! Sequences of operations. -/

theorem andThen_of_fault {first : Outcome} {fault : Fault}
    (faulted : first.fault? = some fault) (second : Machine → Outcome) :
    first.andThen second = first := by
  rw [andThen, faulted]

theorem andThen_of_success {first : Outcome} (succeeded : first.fault? = none)
    (second : Machine → Outcome) :
    first.andThen second =
      { second first.machine with
        events := first.events ++ (second first.machine).events
        signals := first.signals ++ (second first.machine).signals } := by
  rw [andThen, succeeded]

theorem fault?_andThen_eq_none_iff {first : Outcome} {second : Machine → Outcome} :
    (first.andThen second).fault? = none ↔
      first.fault? = none ∧ (second first.machine).fault? = none := by
  cases faulted : first.fault? with
  | some fault => simp [andThen_of_fault faulted, faulted]
  | none => simp [andThen_of_success faulted]

@[simp] theorem quiet_andThen (machine : Machine) (second : Machine → Outcome) :
    (quiet machine).andThen second = second machine := rfl

theorem reporting_andThen (event : Event) (first : Outcome)
    (second : Machine → Outcome) :
    (first.reporting event).andThen second = (first.andThen second).reporting event := by
  cases faulted : first.fault? with
  | some fault =>
      rw [andThen_of_fault faulted]
      exact andThen_of_fault (by exact faulted) second
  | none =>
      rw [andThen_of_success faulted]
      exact andThen_of_success (by exact faulted) second

@[simp] theorem andThen_quiet (first : Outcome) :
    first.andThen quiet = first := by
  rcases first with ⟨machine, fault?, events, signals⟩
  cases fault? <;> simp [andThen, quiet]

theorem andThen_assoc (first : Outcome) (second third : Machine → Outcome) :
    (first.andThen second).andThen third =
      first.andThen fun machine => (second machine).andThen third := by
  rcases first with ⟨machine, fault?, events, signals⟩
  cases fault? with
  | some fault => rfl
  | none =>
      cases faulted : (second machine).fault? <;>
        simp [andThen, faulted, List.append_assoc]

end Outcome

end Chip8
