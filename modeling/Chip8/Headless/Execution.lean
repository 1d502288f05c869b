import Chip8.Machine.Step

/-! # Supervised execution

A program is stepped until its budget is spent, a step faults, or, if asked
for, a step leaves the program counter where it was. -/

namespace Chip8.Headless

inductive Ending where
  | budgetSpent
  /-- The last of `steps` steps left the program counter at `pc`. -/
  | looping (pc : UInt16) (steps : Nat)
  /-- After `steps` steps the one at `pc` faulted. -/
  | failed (steps : Nat) (pc : UInt16) (fault : Fault)
deriving DecidableEq

/-- The ending as it is counted from a point some steps earlier. -/
def Ending.after (earlier : Nat) : Ending → Ending
  | .budgetSpent => .budgetSpent
  | .looping pc steps => .looping pc (earlier + steps)
  | .failed steps pc fault => .failed (earlier + steps) pc fault

theorem Ending.after_zero (ending : Ending) : ending.after 0 = ending := by
  cases ending <;> simp [after]

theorem Ending.after_after (first second : Nat) (ending : Ending) :
    (ending.after second).after first = ending.after (first + second) := by
  cases ending <;> simp [after, Nat.add_assoc]

theorem Ending.after_eq_looping_iff {earlier steps : Nat} {pc : UInt16}
    {ending : Ending} :
    ending.after earlier = .looping pc steps ↔
      ∃ count, ending = .looping pc count ∧ earlier + count = steps := by
  cases ending <;> simp [after, and_assoc]

structure Execution where
  machine : Machine
  ending : Ending
  events : List Event
deriving DecidableEq

namespace Execution

private def collect (stopOnLoop : Bool) (heard : Event → Bool) (taken : Nat)
    (machine : Machine) (events : Array Event) : Nat → Execution
  | 0 => ⟨machine, .budgetSpent, events.toList⟩
  | remaining + 1 =>
      let outcome := machine.step
      let events := events ++ outcome.events.filter heard
      match outcome.fault? with
      | some fault =>
          ⟨outcome.machine, .failed taken machine.pc fault, events.toList⟩
      | none =>
          if stopOnLoop && outcome.machine.pc == machine.pc then
            ⟨outcome.machine, .looping machine.pc (taken + 1), events.toList⟩
          else
            collect stopOnLoop heard (taken + 1) outcome.machine events remaining

/-- Execute up to `budget` steps, keeping the events that are heard. -/
def of (stopOnLoop : Bool) (heard : Event → Bool) (machine : Machine)
    (budget : Nat) : Execution :=
  collect stopOnLoop heard 0 machine #[] budget

/-- The execution that begins one step earlier, with these events. -/
def preceded (execution : Execution) (events : List Event) : Execution where
  machine := execution.machine
  ending := execution.ending.after 1
  events := events ++ execution.events

private theorem collect_eq (stopOnLoop : Bool) (heard : Event → Bool) (taken : Nat)
    (machine : Machine) (events : Array Event) (budget : Nat) :
    collect stopOnLoop heard taken machine events budget =
      { machine := (of stopOnLoop heard machine budget).machine
        ending := (of stopOnLoop heard machine budget).ending.after taken
        events := events.toList ++ (of stopOnLoop heard machine budget).events } := by
  induction budget generalizing taken machine events with
  | zero => simp [of, collect, Ending.after]
  | succ budget induction =>
      simp only [of, collect]
      cases faulted : machine.step.fault? with
      | some fault => simp [Ending.after]
      | none =>
          by_cases loops : (stopOnLoop && machine.step.machine.pc == machine.pc) = true
          · simp [loops, Ending.after]
          · simp only [loops, Bool.false_eq_true, if_false]
            rw [induction, induction 1]
            simp [Ending.after_after]

/-! The first step decides whether there is a rest. -/

theorem of_zero (stopOnLoop : Bool) (heard : Event → Bool) (machine : Machine) :
    of stopOnLoop heard machine 0 = ⟨machine, .budgetSpent, []⟩ := rfl

theorem of_succ_of_fault {machine : Machine} {fault : Fault}
    (faulted : machine.step.fault? = some fault) (stopOnLoop : Bool)
    (heard : Event → Bool) (budget : Nat) :
    of stopOnLoop heard machine (budget + 1) =
      ⟨machine.step.machine, .failed 0 machine.pc fault,
        machine.step.events.filter heard⟩ := by
  rw [of, collect]
  simp [faulted]

theorem of_succ_of_loop {machine : Machine} (succeeded : machine.step.fault? = none)
    (same : machine.step.machine.pc = machine.pc) (heard : Event → Bool)
    (budget : Nat) :
    of true heard machine (budget + 1) =
      ⟨machine.step.machine, .looping machine.pc 1, machine.step.events.filter heard⟩ := by
  rw [of, collect]
  simp [succeeded, same]

theorem of_succ_of_progress {machine : Machine} {stopOnLoop : Bool}
    (succeeded : machine.step.fault? = none)
    (onward : stopOnLoop = false ∨ machine.step.machine.pc ≠ machine.pc)
    (heard : Event → Bool) (budget : Nat) :
    of stopOnLoop heard machine (budget + 1) =
      (of stopOnLoop heard machine.step.machine budget).preceded
        (machine.step.events.filter heard) := by
  have goesOn : (stopOnLoop && machine.step.machine.pc == machine.pc) = false := by
    rcases onward with unsupervised | moved
    · rw [unsupervised, Bool.false_and]
    · rw [beq_eq_false_iff_ne.mpr moved, Bool.and_false]
  rw [of, collect]
  simp only [succeeded, goesOn, Bool.false_eq_true, if_false]
  rw [collect_eq]
  simp [preceded]

end Execution

end Chip8.Headless
