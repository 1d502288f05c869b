import Chip8.Machine.Execute

/-! # Loading and stepping -/

namespace Chip8.Machine

/-- Copy a program to the place for programs. A program that does not fit is
not copied at all. Nothing but memory changes, and the rest of memory stays. -/
def load (machine : Machine) (program : List UInt8) : Outcome :=
  if programStart.toNat + program.length ≤ memorySize then
    .reporting (.loaded program.length)
      (.quiet { machine with
        memory := machine.memory.write programStart.toNat program })
  else
    .stopped machine (.outOfBounds programStart.toNat program.length)

/-- The opcode at the program counter. -/
def fetch (machine : Machine) : Except Fault Opcode :=
  match machine.memory.opcode? machine.pc.toNat with
  | some opcode => .ok opcode
  | none => .error (.outOfBounds machine.pc.toNat 2)

/-- Fetch, decode and execute. -/
def step (machine : Machine) : Outcome :=
  match machine.fetch with
  | .error fault => .stopped machine fault
  | .ok opcode =>
      .reporting (.fetched machine.pc opcode) (machine.execute (.decode opcode))

theorem load_of_fitting (machine : Machine) {program : List UInt8}
    (fitting : programStart.toNat + program.length ≤ memorySize) :
    machine.load program =
      .reporting (.loaded program.length)
        (.quiet { machine with
          memory := machine.memory.write programStart.toNat program }) :=
  if_pos fitting

theorem load_of_excess (machine : Machine) {program : List UInt8}
    (excess : memorySize < programStart.toNat + program.length) :
    machine.load program =
      .stopped machine (.outOfBounds programStart.toNat program.length) :=
  if_neg (Nat.not_le_of_lt excess)

/-- The high byte lies at the program counter and the low byte behind it. -/
theorem fetch_of_inside {machine : Machine}
    (inside : machine.pc.toNat + 1 < memorySize) :
    machine.fetch =
      .ok (.ofBytes (machine.memory.read machine.pc.toNat)
        (machine.memory.read (machine.pc.toNat + 1))) := by
  rw [fetch, Memory.opcode?_eq_some inside]

theorem fetch_of_outside {machine : Machine}
    (outside : memorySize ≤ machine.pc.toNat + 1) :
    machine.fetch = .error (.outOfBounds machine.pc.toNat 2) := by
  rw [fetch, Memory.opcode?_eq_none_iff.mpr outside]

theorem step_of_fetched {machine : Machine} {opcode : Opcode}
    (fetched : machine.fetch = .ok opcode) :
    machine.step =
      .reporting (.fetched machine.pc opcode) (machine.execute (.decode opcode)) := by
  rw [step, fetched]

theorem step_of_unfetched {machine : Machine} {fault : Fault}
    (unfetched : machine.fetch = .error fault) :
    machine.step = .stopped machine fault := by
  rw [step, unfetched]

/-! ## Runs

A run is a number of steps that ends early at the first fault. It is computed
by a loop that collects effects in arrays; `run_zero` and `run_succ` say what
it computes. -/

private def collectRun (machine : Machine) (events : Array Event)
    (signals : Array Signal) : Nat → Outcome
  | 0 => ⟨machine, none, events.toList, signals.toList⟩
  | count + 1 =>
      let outcome := machine.step
      let events := events ++ outcome.events
      let signals := signals ++ outcome.signals
      match outcome.fault? with
      | some fault => ⟨outcome.machine, some fault, events.toList, signals.toList⟩
      | none => collectRun outcome.machine events signals count

/-- At most `count` steps. -/
def run (machine : Machine) (count : Nat) : Outcome :=
  collectRun machine #[] #[] count

private theorem collectRun_eq (machine : Machine) (events : Array Event)
    (signals : Array Signal) (count : Nat) :
    collectRun machine events signals count =
      { machine.run count with
        events := events.toList ++ (machine.run count).events
        signals := signals.toList ++ (machine.run count).signals } := by
  induction count generalizing machine events signals with
  | zero => simp [run, collectRun]
  | succ count induction =>
      rw [run, collectRun, collectRun]
      cases faulted : machine.step.fault? with
      | some fault => simp
      | none =>
          simp only
          rw [induction, induction machine.step.machine]
          simp [List.append_assoc]

@[simp] theorem run_zero (machine : Machine) : machine.run 0 = .quiet machine := rfl

theorem run_succ (machine : Machine) (count : Nat) :
    machine.run (count + 1) =
      machine.step.andThen fun machine => machine.run count := by
  rw [run, collectRun, Outcome.andThen]
  cases faulted : machine.step.fault? with
  | some fault =>
      rcases outcome : machine.step with ⟨next, fault?, events, signals⟩
      simp_all
  | none =>
      simp only
      rw [collectRun_eq]
      simp

theorem run_succ_of_unfetched {machine : Machine} {fault : Fault}
    (unfetched : machine.fetch = .error fault) (count : Nat) :
    machine.run (count + 1) = .stopped machine fault := by
  rw [run_succ, step_of_unfetched unfetched]
  rfl

theorem run_succ_of_fetched {machine : Machine} {opcode : Opcode}
    (fetched : machine.fetch = .ok opcode) (count : Nat) :
    machine.run (count + 1) =
      .reporting (.fetched machine.pc opcode)
        ((machine.execute (.decode opcode)).andThen fun next => next.run count) := by
  rw [run_succ, step_of_fetched fetched, Outcome.reporting_andThen]

theorem run_one (machine : Machine) : machine.run 1 = machine.step := by
  rw [run_succ]
  exact Outcome.andThen_quiet machine.step

theorem run_add (machine : Machine) (first second : Nat) :
    machine.run (first + second) =
      (machine.run first).andThen fun next => next.run second := by
  induction first generalizing machine with
  | zero => rw [Nat.zero_add, run_zero, Outcome.quiet_andThen]
  | succ first induction =>
      rw [Nat.add_right_comm, run_succ, run_succ, Outcome.andThen_assoc]
      simp only [induction]

private def collectTrail (machine : Machine) (visited : Array Machine) :
    Nat → List Machine
  | 0 => visited.toList
  | count + 1 =>
      let outcome := machine.step
      match outcome.fault? with
      | some _ => visited.toList
      | none => collectTrail outcome.machine (visited.push outcome.machine) count

/-- The machine after each step of a run that does not fault. -/
def trail (machine : Machine) (count : Nat) : List Machine :=
  collectTrail machine #[] count

private theorem collectTrail_eq (machine : Machine) (visited : Array Machine)
    (count : Nat) :
    collectTrail machine visited count = visited.toList ++ machine.trail count := by
  induction count generalizing machine visited with
  | zero => simp [trail, collectTrail]
  | succ count induction =>
      rw [trail, collectTrail, collectTrail]
      cases faulted : machine.step.fault? with
      | some fault => simp
      | none =>
          simp only
          rw [induction, induction machine.step.machine]
          simp

@[simp] theorem trail_zero (machine : Machine) : machine.trail 0 = [] := rfl

theorem trail_succ (machine : Machine) (count : Nat) :
    machine.trail (count + 1) =
      match machine.step.fault? with
      | some _ => []
      | none => machine.step.machine :: machine.step.machine.trail count := by
  rw [trail, collectTrail]
  cases faulted : machine.step.fault? with
  | some fault => rfl
  | none =>
      simp only
      rw [collectTrail_eq]
      simp

end Chip8.Machine
