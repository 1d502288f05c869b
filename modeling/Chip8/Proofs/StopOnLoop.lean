import Chip8.Headless.Report
import Chip8.Proofs.Move

/-! # Stopping on loops

A supervised execution that stops on loops stops when a step leaves the program
counter alone. If the instruction there works on the call stack, the next step
changes the stack or faults; if not, the machine has come to rest for good, and
the steps that are left out would not have shown. -/

namespace Chip8

namespace Machine

/-! ## Machines at rest -/

/-- Every further step succeeds and changes nothing. -/
def AtRest (machine : Machine) : Prop :=
  ∀ count, (machine.run count).fault? = none ∧ (machine.run count).machine = machine

theorem atRest_iff {machine : Machine} :
    machine.AtRest ↔ machine.step.fault? = none ∧ machine.step.machine = machine := by
  constructor
  · intro rest
    have once := rest 1
    rw [run_succ] at once
    exact Outcome.andThen_quiet machine.step ▸ once
  · rintro ⟨succeeded, same⟩ count
    induction count with
    | zero => exact ⟨rfl, rfl⟩
    | succ count induction =>
        rw [run_succ, Outcome.andThen_of_success succeeded, same]
        exact induction

/-- Whether the instruction at the program counter works on the call stack. -/
def upcomingUsesStack (machine : Machine) : Bool :=
  machine.upcoming?.any Instruction.usesStack

/-! ## Steps that leave the program counter alone -/

theorem following_ne (pc : UInt16) : following pc ≠ pc := by
  intro same
  have value := congrArg UInt16.toNat same
  rw [toNat_following] at value
  omega

theorem following_following_ne (pc : UInt16) : following (following pc) ≠ pc := by
  intro same
  have value := congrArg UInt16.toNat same
  rw [toNat_following, toNat_following] at value
  omega

theorem goTo_pc (machine : Machine) : machine.goTo machine.pc = machine := rfl

/-- An instruction that leaves both the call stack and the program counter alone
is a jump to itself and has no effect at all. -/
theorem execute_of_pc_eq {machine : Machine} {instruction : Instruction}
    (plain : instruction.usesStack = false)
    (same : (machine.execute instruction).machine.pc = machine.pc) :
    machine.execute instruction = .quiet machine := by
  cases instruction with
  | call target => simp [Instruction.usesStack] at plain
  | ret => simp [Instruction.usesStack] at plain
  | jump target =>
      change wrap target.word = machine.pc at same
      rw [execute, same, goTo_pc]
  | jumpOffset target =>
      change wrap (target.word + (machine.registers.read ⟨0⟩).toUInt16) = machine.pc
        at same
      rw [execute, same, goTo_pc]
  | skipIf condition =>
      rw [execute, advanceSkipping] at same
      split at same
      · exact absurd same (following_following_ne machine.pc)
      · exact absurd same (following_ne machine.pc)
  | _ => exact absurd same (following_ne machine.pc)

/-- No machine rests before a call or return: either it faults, or the depth of
the stack changes. -/
theorem not_atRest_of_usesStack {machine : Machine} {opcode : Opcode}
    (fetched : machine.fetch = .ok opcode)
    (linking : (Instruction.decode opcode).usesStack = true) : ¬ machine.AtRest := by
  intro rest
  have once := atRest_iff.mp rest
  rw [step_of_fetched fetched] at once
  rcases machine.execute_of_usesStack linking with
    ⟨fault, stopped⟩ | ⟨event, stack, pc, changed, moved⟩
  · simp [stopped] at once
  · rw [moved] at once
    have sameDepth := congrArg (fun after => after.stack.depth) once.2
    exact changed sameDepth

theorem atRest_step_iff {machine : Machine}
    (succeeded : machine.step.fault? = none)
    (same : machine.step.machine.pc = machine.pc) :
    machine.step.machine.AtRest ↔ machine.step.machine.upcomingUsesStack = false := by
  cases fetched : machine.fetch with
  | error fault => simp [step_of_unfetched fetched] at succeeded
  | ok opcode =>
      have stepped := step_of_fetched fetched
      have fetchedAgain : machine.step.machine.fetch = .ok opcode := by
        rw [← fetched, fetch, fetch, same]
        simp [stepped]
      have known : machine.step.machine.upcomingUsesStack =
          (Instruction.decode opcode).usesStack := by
        rw [upcomingUsesStack, upcoming?_eq_some_iff.mpr ⟨opcode, fetchedAgain, rfl⟩,
          Option.any_some]
      rw [known]
      constructor
      · intro rest
        cases linking : (Instruction.decode opcode).usesStack with
        | false => rfl
        | true => exact absurd rest (not_atRest_of_usesStack fetchedAgain linking)
      · intro plain
        have samePc : (machine.execute (.decode opcode)).machine.pc = machine.pc := by
          rw [stepped] at same
          exact same
        have unmoved : machine.step.machine = machine := by
          rw [stepped, execute_of_pc_eq plain samePc]
          rfl
        rw [unmoved]
        exact atRest_iff.mpr ⟨succeeded, unmoved⟩

end Machine

namespace Headless

namespace Execution

open Machine

/-- What a report shows of an execution besides its log. -/
def shown (execution : Execution) : Machine × Option String :=
  (execution.machine, Report.endingError? execution.ending)

theorem shown_preceded (execution : Execution) (events : List Event) :
    (execution.preceded events).shown = execution.shown := by
  rcases execution with ⟨machine, ending, later⟩
  cases ending <;> rfl

theorem shown_of_atRest {machine : Machine} (rest : machine.AtRest)
    (heard : Event → Bool) (budget : Nat) :
    (of false heard machine budget).shown = (machine, none) := by
  have once := atRest_iff.mp rest
  induction budget with
  | zero => rfl
  | succ budget induction =>
      rw [of_succ_of_progress once.1 (.inl rfl), shown_preceded, once.2, induction]

/-- A call to itself goes on until the stack is full, and then faults. -/
theorem failed_of_self_call {machine : Machine} {target : Address}
    (calls : machine.upcoming? = some (.call target))
    (itself : wrap target.word = machine.pc) (heard : Event → Bool) {budget : Nat}
    (enough : 16 < machine.stack.depth + budget) :
    (of false heard machine budget).shown.2.isSome := by
  induction budget generalizing machine with
  | zero =>
      have bound := machine.stack.depth_le
      omega
  | succ budget induction =>
      rcases upcoming?_eq_some_iff.mp calls with ⟨opcode, fetched, decoded⟩
      have stepped := step_of_fetched fetched
      rw [decoded, execute] at stepped
      rcases Nat.lt_or_eq_of_le machine.stack.depth_le with room | full
      · rcases enterRoutine_of_room room target with ⟨stack, pushed, entered⟩
        rw [entered, itself] at stepped
        have succeeded : machine.step.fault? = none := by rw [stepped]; rfl
        have deeper := CallStack.depth_of_toList_append pushed
        rw [of_succ_of_progress succeeded (.inl rfl), shown_preceded, stepped]
        exact induction calls itself (by simp; omega)
      · rw [enterRoutine_of_full full] at stepped
        have faulted : machine.step.fault? = some (.stackOverflow (following machine.pc)) := by
          rw [stepped]
          rfl
        rw [of_succ_of_fault faulted]
        rfl

variable {heard : Event → Bool} {machine : Machine} {budget : Nat}

/-- An execution that stops on a loop leaves a machine at rest, unless the
instruction there works on the call stack. -/
theorem atRest_of_looping {pc : UInt16} {steps : Nat}
    (looping : (of true heard machine budget).ending = .looping pc steps) :
    let stopped := (of true heard machine budget).machine
    stopped.pc = pc ∧ (stopped.AtRest ↔ stopped.upcomingUsesStack = false) := by
  induction budget generalizing machine steps with
  | zero => cases looping
  | succ budget induction =>
      cases faulted : machine.step.fault? with
      | some fault =>
          rw [of_succ_of_fault faulted] at looping
          cases looping
      | none =>
          by_cases same : machine.step.machine.pc = machine.pc
          · rw [of_succ_of_loop faulted same] at looping ⊢
            cases looping
            exact ⟨same, atRest_step_iff faulted same⟩
          · rw [of_succ_of_progress faulted (.inr same)] at looping ⊢
            rcases Ending.after_eq_looping_iff.mp looping with ⟨count, later, _⟩
            exact induction later

/-- Whether stopping on a loop has left out steps of the budget before an
instruction that works on the call stack. -/
def CutBeforeStackUse (execution : Execution) (budget : Nat) : Prop :=
  ∃ pc steps, execution.ending = .looping pc steps ∧ steps < budget ∧
    execution.machine.upcomingUsesStack = true

theorem shown_of_true_eq
    (uncut : ¬ (of true heard machine budget).CutBeforeStackUse budget) :
    (of true heard machine budget).shown = (of false heard machine budget).shown := by
  induction budget generalizing machine with
  | zero => rfl
  | succ budget induction =>
      cases faulted : machine.step.fault? with
      | some fault => rw [of_succ_of_fault faulted, of_succ_of_fault faulted]
      | none =>
          rw [of_succ_of_progress faulted (.inl rfl), shown_preceded]
          by_cases same : machine.step.machine.pc = machine.pc
          · rw [of_succ_of_loop faulted same] at uncut ⊢
            cases budget with
            | zero => rfl
            | succ left =>
                have plain : machine.step.machine.upcomingUsesStack = false := by
                  cases linking : machine.step.machine.upcomingUsesStack with
                  | false => rfl
                  | true => exact absurd ⟨_, _, rfl, by omega, linking⟩ uncut
                exact (shown_of_atRest ((atRest_step_iff faulted same).mpr plain) heard
                  (left + 1)).symm
          · rw [of_succ_of_progress faulted (.inr same)] at uncut ⊢
            rw [shown_preceded]
            apply induction
            rintro ⟨pc, steps, looping, left, linking⟩
            exact uncut ⟨pc, 1 + steps, by rw [preceded, looping, Ending.after], by omega,
              linking⟩

end Execution

namespace Report

variable {options : Options} {threshold : Option Level} {program : List UInt8}

/-- The execution that the report on a program is about, if the program loads. -/
def execution (options : Options) (threshold : Option Level) (program : List UInt8) :
    Execution :=
  .of options.stopOnLoop (fun event => event.level.heard threshold)
    (Machine.initial.load program).machine options.steps

theorem ofRun_of_loaded (loaded : (Machine.initial.load program).fault? = none) :
    let shown := (execution options threshold program).shown
    (ofRun options threshold (.ok program)).output = shown.1.dump ∧
      (ofRun options threshold (.ok program)).exitCode =
        if shown.2.isSome then 1 else 0 := by
  simp only [ofRun, exitCode, ofProgram, loaded]
  exact ⟨rfl, rfl⟩

theorem ofRun_of_unloaded {fault : Fault}
    (unloaded : (Machine.initial.load program).fault? = some fault) :
    (ofRun options threshold (.ok program)).output = "" ∧
      (ofRun options threshold (.ok program)).exitCode = 1 := by
  simp [ofRun, exitCode, ofProgram, unloaded]

/-- A run that stops on a loop has come to rest, unless the instruction there
works on the call stack. Where it does not leave out steps before such an
instruction, the exit code and the output are those of the run that does not
stop. -/
theorem stopOnLoop_unobservable (path : String) (steps : Nat)
    (threshold : Option Level) (program : List UInt8) :
    let report (stopOnLoop : Bool) := ofRun ⟨path, steps, stopOnLoop⟩ threshold (.ok program)
    let supervised := execution ⟨path, steps, true⟩ threshold program
    (∀ pc taken, supervised.ending = .looping pc taken →
      supervised.machine.pc = pc ∧
        (supervised.machine.AtRest ↔ supervised.machine.upcomingUsesStack = false)) ∧
    (((Machine.initial.load program).fault? = none → ¬ supervised.CutBeforeStackUse steps) →
      (report true).exitCode = (report false).exitCode ∧
        (report true).output = (report false).output) := by
  intro report supervised
  constructor
  · intro pc taken looping
    exact Execution.atRest_of_looping looping
  · intro uncut
    cases loaded : (Machine.initial.load program).fault? with
    | some fault => simp only [report, ofRun_of_unloaded loaded, and_self]
    | none =>
        have agrees := Execution.shown_of_true_eq (uncut loaded)
        simp only [report, ofRun_of_loaded loaded]
        rw [show (execution ⟨path, steps, true⟩ threshold program).shown =
          (execution ⟨path, steps, false⟩ threshold program).shown from agrees]
        exact ⟨rfl, rfl⟩

/-- A jump to itself comes to rest, and stopping there does not show. -/
theorem stopOnLoop_unobservable_of_self_jump :
    let report (stopOnLoop : Bool) :=
      ofRun ⟨"rom.ch8", 1000, stopOnLoop⟩ none (.ok [0x12, 0x00])
    let supervised := execution ⟨"rom.ch8", 1000, true⟩ none [0x12, 0x00]
    supervised.ending = .looping 0x200 1 ∧ supervised.machine.AtRest ∧
      (report true).exitCode = (report false).exitCode ∧
      (report true).output = (report false).output := by
  have ending : (execution ⟨"rom.ch8", 1000, true⟩ none [0x12, 0x00]).ending =
      .looping 0x200 1 := by
    decide +kernel
  have plain : (execution ⟨"rom.ch8", 1000, true⟩ none
      [0x12, 0x00]).machine.upcomingUsesStack = false := by
    decide +kernel
  rcases stopOnLoop_unobservable "rom.ch8" 1000 none [0x12, 0x00] with
    ⟨resting, agreeing⟩
  refine ⟨ending, (resting 0x200 1 ending).2.mpr plain, agreeing fun _ cut => ?_⟩
  rcases cut with ⟨_, _, _, _, linking⟩
  exact Bool.false_ne_true (plain.symm.trans linking)

/-- A loop over the call stack, in a run that would fail, is no rest, and
stopping there hides the failure. -/
theorem exitCode_of_hidden_failure {path : String} {steps taken : Nat} {pc : UInt16}
    (loaded : (Machine.initial.load program).fault? = none)
    (looping : (execution ⟨path, steps, true⟩ threshold program).ending =
      .looping pc taken)
    (linking : (execution ⟨path, steps, true⟩ threshold
      program).machine.upcomingUsesStack = true)
    (failed : (execution ⟨path, steps, false⟩ threshold program).shown.2.isSome) :
    ¬ (execution ⟨path, steps, true⟩ threshold program).machine.AtRest ∧
      (ofRun ⟨path, steps, true⟩ threshold (.ok program)).exitCode = 0 ∧
      (ofRun ⟨path, steps, false⟩ threshold (.ok program)).exitCode = 1 := by
  refine ⟨?_, ?_, ?_⟩
  · intro rest
    have plain := (Execution.atRest_of_looping looping).2.mp rest
    exact Bool.false_ne_true (plain.symm.trans linking)
  · rw [(ofRun_of_loaded loaded).2, Execution.shown, looping]
    rfl
  · rw [(ofRun_of_loaded loaded).2]
    exact if_pos failed

/-- A call to itself stops like a loop after one step, and a routine whose return
leads to that return after two. But neither has come to rest, and without the
stop both fault in the end. -/
theorem stopOnLoop_observable_of_stack_use :
    let report (stopOnLoop : Bool) (program : List UInt8) :=
      ofRun ⟨"rom.ch8", 1000, stopOnLoop⟩ none (.ok program)
    let supervised := execution ⟨"rom.ch8", 1000, true⟩ none
    let selfCall : List UInt8 := [0x22, 0x00]
    let selfReturn : List UInt8 := [0x22, 0x02, 0x00, 0xEE]
    ((supervised selfCall).ending = .looping 0x200 1 ∧
      ¬ (supervised selfCall).machine.AtRest ∧
      (report true selfCall).exitCode = 0 ∧ (report false selfCall).exitCode = 1) ∧
    ((supervised selfReturn).ending = .looping 0x202 2 ∧
      ¬ (supervised selfReturn).machine.AtRest ∧
      (report true selfReturn).exitCode = 0 ∧
      (report false selfReturn).exitCode = 1) := by
  have callLoops : (execution ⟨"rom.ch8", 1000, true⟩ none [0x22, 0x00]).ending =
      .looping 0x200 1 := by
    decide +kernel
  have callLinks : (execution ⟨"rom.ch8", 1000, true⟩ none
      [0x22, 0x00]).machine.upcomingUsesStack = true := by
    decide +kernel
  -- Seventeen calls are too many to evaluate.
  have calls : (Machine.initial.load [0x22, 0x00]).machine.upcoming? =
      some (.call ⟨0x200⟩) := by
    decide +kernel
  have callFails := Execution.failed_of_self_call calls rfl
    (fun event => event.level.heard none)
    (show 16 < (Machine.initial.load [0x22, 0x00]).machine.stack.depth + 1000 by decide)
  have returnLoops : (execution ⟨"rom.ch8", 1000, true⟩ none
      [0x22, 0x02, 0x00, 0xEE]).ending = .looping 0x202 2 := by
    decide +kernel
  have returnLinks : (execution ⟨"rom.ch8", 1000, true⟩ none
      [0x22, 0x02, 0x00, 0xEE]).machine.upcomingUsesStack = true := by
    decide +kernel
  have returnFails : (execution ⟨"rom.ch8", 1000, false⟩ none
      [0x22, 0x02, 0x00, 0xEE]).shown.2.isSome := by
    decide +kernel
  exact ⟨⟨callLoops, exitCode_of_hidden_failure rfl callLoops callLinks callFails⟩,
    ⟨returnLoops, exitCode_of_hidden_failure rfl returnLoops returnLinks returnFails⟩⟩

end Report

end Headless

end Chip8
