import Chip8.Proofs.Faults
import Chip8.Proofs.Observation
import Chip8.Proofs.Replay

/-! # What memory can change

A run sees of memory the bytes that it fetches and the rows of the sprites that
it draws. The fetched bytes decide what happens; the rows only pass through to
the peripheral. So two machines that fetch the same bytes run alike. -/

namespace Chip8

/-! ## What is seen apart from memory -/

/-- A signal whose sprite has all its rows, but blank ones. -/
def Signal.blank : Signal → Signal
  | .drawSprite x y sprite => .drawSprite x y (sprite.map fun _ => 0)
  | other => other

def Observation.apartFromMemory (observation : Observation) : Observation :=
  { observation with
    memory := .zeroed
    signals := observation.signals.map Signal.blank }

namespace Machine

/-- Two machines that differ at most in memory, and in slots of the call stack
that are free. -/
structure EqualButMemory (left right : Machine) : Prop where
  pc : left.pc = right.pc
  index : left.index = right.index
  registers : left.registers = right.registers
  addresses : left.stack.toList = right.stack.toList

namespace EqualButMemory

variable {left right : Machine}

theorem depth (same : left.EqualButMemory right) : left.stack.depth = right.stack.depth := by
  rw [← CallStack.length_toList, ← CallStack.length_toList, same.addresses]

theorem goTo (same : left.EqualButMemory right) (pc : UInt16) :
    (left.goTo pc).EqualButMemory (right.goTo pc) :=
  ⟨rfl, same.index, same.registers, same.addresses⟩

end EqualButMemory

end Machine

namespace Outcome

/-- Two outcomes that look the same apart from memory. -/
def Alike (left right : Outcome) : Prop :=
  left.observe.apartFromMemory = right.observe.apartFromMemory

theorem Alike.of_machines {left right : Outcome}
    (machines : left.machine.EqualButMemory right.machine)
    (faults : left.fault? = right.fault?) (events : left.events = right.events)
    (signals : left.signals.map Signal.blank = right.signals.map Signal.blank) :
    left.Alike right := by
  have pointers : left.machine.stack.pointer? = right.machine.stack.pointer? := by
    rw [CallStack.pointer?, CallStack.pointer?, machines.depth]
  have dumps : left.machine.dump = right.machine.dump :=
    Machine.dump_congr machines.pc machines.index machines.registers machines.addresses
  simp only [Alike, Observation.apartFromMemory, observe, faults, machines.pc, machines.index,
    machines.registers, machines.addresses, pointers, dumps, events, signals]

theorem Alike.reporting {left right : Outcome} (alike : left.Alike right) (event : Event) :
    (left.reporting event).Alike (right.reporting event) := by
  have report := congrArg (fun observation : Observation =>
    { observation with events := event :: observation.events }) alike
  exact report

theorem Alike.machines {left right : Outcome} (alike : left.Alike right) :
    left.machine.EqualButMemory right.machine where
  pc := congrArg Observation.pc alike
  index := congrArg Observation.index alike
  registers := congrArg Observation.registers alike
  addresses := congrArg Observation.addresses alike

theorem Alike.fault?_eq {left right : Outcome} (alike : left.Alike right) :
    left.fault? = right.fault? :=
  congrArg Observation.fault? alike

end Outcome

namespace Machine

variable {left right : Machine}

/-! ## One instruction -/

namespace EqualButMemory

theorem enterRoutine (same : left.EqualButMemory right) (target : Address) :
    (left.enterRoutine target).Alike (right.enterRoutine target) := by
  rcases Nat.lt_or_eq_of_le left.stack.depth_le with room | full
  · rcases enterRoutine_of_room room target with ⟨stack, shape, entered⟩
    rcases enterRoutine_of_room (same.depth ▸ room) target with
      ⟨otherStack, otherShape, otherEntered⟩
    have addresses : stack.toList = otherStack.toList := by
      rw [shape, otherShape, same.addresses, same.pc]
    rw [entered, otherEntered, same.pc]
    exact .of_machines ⟨rfl, same.index, same.registers, addresses⟩ rfl rfl rfl
  · rw [enterRoutine_of_full full, enterRoutine_of_full (same.depth ▸ full), same.pc]
    exact .of_machines same rfl rfl rfl

theorem leaveRoutine (same : left.EqualButMemory right) :
    left.leaveRoutine.Alike right.leaveRoutine := by
  rcases Nat.eq_zero_or_pos left.stack.depth with empty | occupied
  · rw [leaveRoutine_of_empty empty, leaveRoutine_of_empty (same.depth ▸ empty)]
    exact .of_machines same rfl rfl rfl
  · rcases leaveRoutine_of_occupied occupied with ⟨address, stack, shape, returned⟩
    rcases leaveRoutine_of_occupied (same.depth ▸ occupied) with
      ⟨otherAddress, otherStack, otherShape, otherReturned⟩
    rw [same.addresses, otherShape] at shape
    rcases List.append_inj' shape rfl with ⟨addresses, sameTop⟩
    cases sameTop
    rw [returned, otherReturned]
    exact .of_machines ⟨rfl, same.index, same.registers, addresses.symm⟩ rfl rfl rfl

/-- Sprites have as many rows as there is place for from the index register on,
whatever the rows hold. -/
theorem blank_sprite (same : left.EqualButMemory right) (rows : UInt8) :
    (left.sprite rows).map (fun _ => (0 : UInt8)) =
      (right.sprite rows).map fun _ => 0 := by
  have inside (start : Nat) : min (start + rows.toNat) memorySize ≤ memorySize :=
    Nat.min_le_right _ _
  simp only [sprite, Memory.window_eq_map_read _ _ (inside _), same.index, List.map_map,
    Function.comp_def]

theorem execute (same : left.EqualButMemory right) (instruction : Instruction) :
    (left.execute instruction).Alike (right.execute instruction) := by
  have advanced : left.advance.EqualButMemory right.advance := by
    rw [advance_eq_goTo, advance_eq_goTo, same.pc]
    exact same.goTo _
  cases instruction with
  | nop => exact .of_machines advanced rfl rfl rfl
  | clearScreen => exact .of_machines advanced rfl rfl rfl
  | ret => exact same.leaveRoutine
  | jump target => exact .of_machines (same.goTo _) rfl rfl rfl
  | call target => exact same.enterRoutine target
  | jumpOffset target =>
      simp only [Machine.execute, same.registers]
      exact .of_machines (same.goTo _) rfl rfl rfl
  | skipIf condition =>
      simp only [Machine.execute, advanceSkipping_eq_goTo, same.registers, same.pc]
      exact .of_machines (same.goTo _) rfl rfl rfl
  | assign x source =>
      simp only [Machine.execute, same.registers]
      exact .of_machines ⟨advanced.pc, same.index, rfl, same.addresses⟩ rfl rfl rfl
  | compute x operation =>
      simp only [Machine.execute, same.registers]
      exact .of_machines ⟨advanced.pc, same.index, rfl, same.addresses⟩ rfl rfl rfl
  | setIndex target =>
      exact .of_machines ⟨advanced.pc, rfl, same.registers, same.addresses⟩ rfl rfl rfl
  | draw x y rows =>
      have signals : (left.execute (.draw x y rows)).signals.map Signal.blank =
          (right.execute (.draw x y rows)).signals.map Signal.blank := by
        simp only [Machine.execute, Outcome.signals_signalling, Outcome.signals_quiet,
          List.map_cons, List.map_nil, Signal.blank, same.blank_sprite rows, same.registers]
      exact .of_machines advanced rfl rfl signals
  | delegate request =>
      simp only [Machine.execute, same.registers, same.index]
      exact .of_machines advanced rfl rfl rfl
  | unknown opcode =>
      simp only [Machine.execute, same.pc]
      exact .of_machines advanced rfl rfl rfl

end EqualButMemory

/-! ## One step -/

/-- The locations of the two bytes that a step fetches. Nothing is fetched if
they do not both lie inside memory. -/
def fetchedLocations (machine : Machine) : List Nat :=
  let location := machine.pc.toNat
  if location + 1 < memorySize then [location, location + 1] else []

theorem EqualButMemory.fetch (same : left.EqualButMemory right)
    (agree : ∀ location ∈ left.fetchedLocations,
      left.memory.read location = right.memory.read location) :
    left.fetch = right.fetch := by
  rcases Nat.lt_or_ge (left.pc.toNat + 1) memorySize with inside | outside
  · rw [fetchedLocations, if_pos inside] at agree
    have high := agree left.pc.toNat (by simp)
    have low := agree (left.pc.toNat + 1) (by simp)
    rw [fetch_of_inside inside, fetch_of_inside (same.pc ▸ inside), high, low, same.pc]
  · rw [fetch_of_outside outside, fetch_of_outside (same.pc ▸ outside), same.pc]

theorem EqualButMemory.step (same : left.EqualButMemory right)
    (agree : ∀ location ∈ left.fetchedLocations,
      left.memory.read location = right.memory.read location) :
    left.step.Alike right.step := by
  have fetches := same.fetch agree
  cases fetched : left.fetch with
  | error fault =>
      rw [step_of_unfetched fetched, step_of_unfetched (fetches ▸ fetched)]
      exact .of_machines same rfl rfl rfl
  | ok opcode =>
      rw [step_of_fetched fetched, step_of_fetched (fetches ▸ fetched), same.pc]
      exact (same.execute _).reporting _

/-! ## Runs -/

/-- The bytes that the first machine fetches in its run are the same in the
memory of the second one. -/
def FetchesAgree (left right : Machine) (count : Nat) : Prop :=
  ∀ attempt ∈ left.attempts count, ∀ location ∈ attempt.fetchedLocations,
    left.memory.read location = right.memory.read location

instance (left right : Machine) (count : Nat) : Decidable (left.FetchesAgree right count) :=
  inferInstanceAs (Decidable (∀ attempt ∈ _, ∀ location ∈ _, _))

theorem FetchesAgree.first {count : Nat} (agree : left.FetchesAgree right (count + 1)) :
    ∀ location ∈ left.fetchedLocations,
      left.memory.read location = right.memory.read location := by
  apply agree left
  rw [attempts_succ]
  exact List.mem_cons_self

theorem FetchesAgree.rest {count : Nat} (agree : left.FetchesAgree right (count + 1))
    (succeeded : left.step.fault? = none) :
    left.step.machine.FetchesAgree right.step.machine count := by
  intro attempt member
  -- Steps leave both memories alone, so what was agreed on still is.
  rw [memory_step, memory_step]
  apply agree attempt
  simp only [attempts_succ, succeeded]
  exact List.mem_cons_of_mem _ member

theorem EqualButMemory.pc_attempts (same : left.EqualButMemory right) {count : Nat}
    (agree : left.FetchesAgree right count) :
    (left.attempts count).map Machine.pc = (right.attempts count).map Machine.pc := by
  induction count generalizing left right with
  | zero => rfl
  | succ count induction =>
      have alike := same.step agree.first
      rw [attempts_succ, attempts_succ, List.map_cons, List.map_cons, same.pc,
        ← alike.fault?_eq]
      cases faulted : left.step.fault? with
      | some fault => rfl
      | none => exact congrArg _ (induction alike.machines (agree.rest faulted))

theorem observations_of_fault {machine : Machine} {fault : Fault}
    (faulted : machine.step.fault? = some fault) (count : Nat) :
    machine.observations (List.replicate count .step) =
      List.replicate count machine.step.observe := by
  have stopped : (machine.move .step).fault? = some fault := faulted
  have unchanged : (machine.perform .step).machine = machine := (move_of_fault stopped).1
  rw [observations, outcomes_replicate unchanged, List.map_replicate]
  rfl

theorem EqualButMemory.observations (same : left.EqualButMemory right) {count : Nat}
    (agree : left.FetchesAgree right count) :
    (left.observations (List.replicate count .step)).map Observation.apartFromMemory =
      (right.observations (List.replicate count .step)).map
        Observation.apartFromMemory := by
  induction count generalizing left right with
  | zero => rfl
  | succ count induction =>
      have alike := same.step agree.first
      cases faulted : left.step.fault? with
      | some fault =>
          rw [observations_of_fault faulted,
            observations_of_fault (alike.fault?_eq ▸ faulted), List.map_replicate,
            List.map_replicate, alike]
      | none =>
          have later := induction alike.machines (agree.rest faulted)
          change left.step.observe.apartFromMemory :: _ =
            right.step.observe.apartFromMemory :: _
          rw [alike]
          exact congrArg _ later

/-- Two machines that differ in memory go through the same program counters if
their memories agree on the bytes that one of them fetches. Each step then ends
alike on both, with the same fault or none, the same registers and return
addresses and the same reports. All that other bytes can change is what the rows
of sprites hold. -/
theorem runs_alike_of_same_fetches {left right : Machine}
    (same : left.EqualButMemory right) (count : Nat)
    (agree : left.FetchesAgree right count) :
    let steps := List.replicate count Operation.step
    (left.attempts count).map Machine.pc = (right.attempts count).map Machine.pc ∧
      (left.observations steps).map Observation.apartFromMemory =
        (right.observations steps).map Observation.apartFromMemory :=
  ⟨same.pc_attempts agree, same.observations agree⟩

/-- Both machines draw the two rows behind their program over and over again, and
the rows are not the same. One of the machines has called a routine before. -/
theorem runs_alike_of_same_fetches_of_other_sprite :
    let program : List UInt8 := [0xD0, 0x02, 0x12, 0x00]
    let left := initial.performAll
      [.load (program ++ [0xF0, 0x90]), .execute (.setIndex ⟨0x204⟩),
        .execute (.jump ⟨0x200⟩)]
    let right := initial.performAll
      [.load (program ++ [0x20]),
        .executeAll [.call ⟨0x300⟩, .setIndex ⟨0x204⟩, .ret, .jump ⟨0x200⟩]]
    let steps := List.replicate 3 Operation.step
    left.EqualButMemory right ∧ left.FetchesAgree right 3 ∧
      (left.observations steps).map Observation.apartFromMemory =
        (right.observations steps).map Observation.apartFromMemory ∧
      (left.run 3).signals ≠ (right.run 3).signals := by
  intro program left right steps
  have same : left.EqualButMemory right :=
    { pc := by decide +kernel
      index := by decide +kernel
      registers := by decide +kernel
      addresses := by decide +kernel }
  have agree : left.FetchesAgree right 3 := by decide +kernel
  have different : (left.run 3).signals ≠ (right.run 3).signals := by decide +kernel
  exact ⟨same, agree, (runs_alike_of_same_fetches same 3 agree).2, different⟩

end Machine

end Chip8
