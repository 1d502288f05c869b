import Chip8.Proofs.EndingRecords
import Chip8.Proofs.Faults

/-! # How a run ends

A run without display goes on until its first step that faults, its first step
that leaves the program counter where it was, if that is to stop it, or the end
of its budget. What it tells is the same for all budgets beyond such a step. -/

namespace Chip8

namespace Machine

/-! ## Numbered steps

Steps are numbered from zero, and a step has its number only if all steps before
it succeed. -/

/-- The step with this number is taken and faults. -/
def FaultsAt (machine : Machine) (number : Nat) (fault : Fault) : Prop :=
  (machine.run number).fault? = none ∧
    (machine.run number).machine.step.fault? = some fault

/-- The step with this number succeeds and leaves the program counter alone. -/
def StallsAt (machine : Machine) (number : Nat) : Prop :=
  (machine.run (number + 1)).fault? = none ∧
    (machine.run (number + 1)).machine.pc = (machine.run number).machine.pc

instance (machine : Machine) (number : Nat) (fault : Fault) :
    Decidable (machine.FaultsAt number fault) :=
  inferInstanceAs (Decidable (_ ∧ _))

instance (machine : Machine) (number : Nat) : Decidable (machine.StallsAt number) :=
  inferInstanceAs (Decidable (_ ∧ _))

variable {machine : Machine} {number count : Nat} {fault : Fault}

theorem step_of_fault (faulted : machine.step.fault? = some fault) :
    machine.step.machine = machine := by
  have moved : (machine.move .step).fault? = some fault := faulted
  exact (move_of_fault moved).1

/-- A run that has not faulted goes on with the step from where it is. -/
theorem run_succ_last (succeeded : (machine.run number).fault? = none) :
    machine.run (number + 1) =
      { (machine.run number).machine.step with
        events := (machine.run number).events ++ (machine.run number).machine.step.events
        signals :=
          (machine.run number).signals ++ (machine.run number).machine.step.signals } := by
  rw [run_add, Outcome.andThen_of_success succeeded, run_one]

theorem run_of_run_succ (succeeded : (machine.run (number + 1)).fault? = none) :
    (machine.run number).fault? = none := by
  rw [run_add] at succeeded
  cases faulted : (machine.run number).fault? with
  | none => rfl
  | some fault =>
      rw [Outcome.andThen_of_fault faulted, faulted] at succeeded
      cases succeeded

theorem run_of_not_faultsAt
    (steady : ∀ number < count, ∀ fault, ¬ machine.FaultsAt number fault) :
    (machine.run count).fault? = none := by
  induction count with
  | zero => rfl
  | succ count induction =>
      have before := induction fun number below =>
        steady number (Nat.lt_succ_of_lt below)
      rw [run_succ_last before]
      cases faulted : (machine.run count).machine.step.fault? with
      | none => rfl
      | some fault => exact absurd ⟨before, faulted⟩ (steady count (Nat.lt_succ_self _) fault)

end Machine

namespace Headless

namespace Execution

/-! ## Executions

The steps before the decisive one are taken whatever the budget is; the decisive
one is the first step of the execution that remains after them. -/

variable {machine : Machine} {stopOnLoop : Bool} {number budget : Nat} {fault : Fault}

theorem of_add_of_progress (succeeded : (machine.run number).fault? = none)
    (onward : stopOnLoop = true → ∀ earlier < number, ¬ machine.StallsAt earlier)
    (heard : Event → Bool) (budget : Nat) :
    let rest := of stopOnLoop heard (machine.run number).machine budget
    of stopOnLoop heard machine (number + budget) =
      { machine := rest.machine
        ending := rest.ending.after number
        events := (machine.run number).events.filter heard ++ rest.events } := by
  -- The last of the steps goes to the rest, whose first step it then is.
  induction number generalizing budget with
  | zero => simp [Ending.after_zero]
  | succ number induction =>
      have before := Machine.run_of_run_succ succeeded
      have last := Machine.run_succ_last before
      have stepped : (machine.run number).machine.step.fault? = none := by
        rw [last] at succeeded
        exact succeeded
      have moving : stopOnLoop = false ∨
          (machine.run number).machine.step.machine.pc ≠ (machine.run number).machine.pc := by
        cases stopOnLoop with
        | false => exact .inl rfl
        | true =>
            refine .inr fun same => onward rfl number (Nat.lt_succ_self _) ⟨succeeded, ?_⟩
            rw [last]
            exact same
      intro rest
      have earlier := induction before
        (fun stops earlier below => onward stops earlier (Nat.lt_succ_of_lt below))
        (budget + 1)
      rw [Nat.add_right_comm, Nat.add_assoc, earlier, of_succ_of_progress stepped moving]
      simp [rest, last, preceded, Ending.after_after]

theorem of_eq_failed (faults : machine.FaultsAt number fault)
    (onward : stopOnLoop = true → ∀ earlier < number, ¬ machine.StallsAt earlier)
    (heard : Event → Bool) (below : number < budget) :
    of stopOnLoop heard machine budget =
      ⟨(machine.run number).machine,
        .failed number (machine.run number).machine.pc fault,
        (machine.run (number + 1)).events.filter heard⟩ := by
  rcases Nat.exists_eq_add_of_lt below with ⟨rest, rfl⟩
  rw [Nat.add_assoc, of_add_of_progress faults.1 onward, of_succ_of_fault faults.2,
    Machine.step_of_fault faults.2, Machine.run_succ_last faults.1]
  simp [Ending.after]

theorem of_eq_looping (stalls : machine.StallsAt number)
    (onward : ∀ earlier < number, ¬ machine.StallsAt earlier)
    (heard : Event → Bool) (below : number < budget) :
    of true heard machine budget =
      ⟨(machine.run (number + 1)).machine,
        .looping (machine.run number).machine.pc (number + 1),
        (machine.run (number + 1)).events.filter heard⟩ := by
  rcases Nat.exists_eq_add_of_lt below with ⟨rest, rfl⟩
  have before := Machine.run_of_run_succ stalls.1
  have last := Machine.run_succ_last before
  rcases stalls with ⟨succeeded, same⟩
  rw [last] at succeeded same
  rw [Nat.add_assoc, of_add_of_progress before fun _ => onward,
    of_succ_of_loop succeeded same, last]
  simp [Ending.after]

theorem of_eq_budgetSpent (succeeded : (machine.run budget).fault? = none)
    (onward : stopOnLoop = true → ∀ number < budget, ¬ machine.StallsAt number)
    (heard : Event → Bool) :
    of stopOnLoop heard machine budget =
      ⟨(machine.run budget).machine, .budgetSpent,
        (machine.run budget).events.filter heard⟩ := by
  have whole := of_add_of_progress succeeded onward heard 0
  rw [Nat.add_zero] at whole
  rw [whole, of_zero, List.append_nil]
  rfl

end Execution

/-! ## Records -/

namespace LogRecord

/-- Failures and loops are for the runner to tell. -/
theorem level_ofEvent (event : Event) :
    (ofEvent event).level ≠ .error ∧ (ofEvent event).level ≠ .info := by
  cases event <;> simp [ofEvent, Event.level]

theorem filter_heard_map_ofEvent (threshold : Option Level) (events : List Event) :
    ((events.filter fun event => event.level.heard threshold).map ofEvent).filter
        (fun record => record.level.heard threshold) =
      (events.map ofEvent).filter fun record => record.level.heard threshold := by
  rw [List.filter_map, List.filter_map, List.filter_filter]
  congr 1
  apply List.filter_congr
  intro event _
  exact Bool.and_self _

/-- Events that are not heard may as well be left out before. -/
theorem filter_heard_records (threshold : Option Level) (first : LogRecord)
    (events : List Event) (last : List LogRecord) :
    (first ::
        ((events.filter fun event => event.level.heard threshold).map ofEvent ++
          last)).filter (fun record => record.level.heard threshold) =
      (first :: (events.map ofEvent ++ last)).filter
        fun record => record.level.heard threshold := by
  simp only [List.filter_cons, List.filter_append, filter_heard_map_ofEvent]

end LogRecord

namespace Report

/-! ## Reports -/

/-- The exit code, the output, and the records of which the log keeps those that
are heard. -/
structure Tells (report : Report) (threshold : Option Level) (exitCode : UInt32)
    (output : String) (records : List LogRecord) : Prop where
  exitCode_eq : report.exitCode = exitCode
  output_eq : report.output = output
  log_eq : report.log = records.filter fun record => record.level.heard threshold

/-- The endings that records of the log name. -/
def endings (report : Report) : List Ending := report.log.filterMap Ending.ofRecord?

variable {path : String} {budget larger : Nat} {stopOnLoop : Bool}
  {threshold : Option Level} {program : List UInt8}

/-- Only the last of these records names an ending. -/
theorem Tells.endings_eq {report : Report} {exitCode : UInt32} {output : String}
    {events : List Event} {last : LogRecord} {ending : Ending}
    (tells : report.Tells threshold exitCode output
      (⟨.info, "headless", "Executing " ++ path⟩ :: (events.map .ofEvent ++ [last])))
    (heard : last.level.heard threshold = true)
    (named : Ending.ofRecord? last = some ending) : report.endings = [ending] := by
  have silent : ∀ record ∈
      (⟨.info, "headless", "Executing " ++ path⟩ :: events.map LogRecord.ofEvent).filter
        (fun record => record.level.heard threshold), Ending.ofRecord? record = none := by
    intro record kept
    rcases List.mem_cons.mp (List.mem_filter.mp kept).1 with rfl | reported
    · exact Ending.ofRecord?_announcement path
    · rcases List.mem_map.mp reported with ⟨event, _, rfl⟩
      exact Ending.ofRecord?_ofEvent event
  rw [endings, tells.log_eq, ← List.cons_append, List.filter_append, List.filterMap_append,
    List.filterMap_eq_nil_iff.mpr silent]
  simp [heard, named]

theorem tells_of_excess (excess : 3584 < program.length) :
    (ofRun ⟨path, budget, stopOnLoop⟩ threshold (.ok program)).Tells threshold 1 ""
      [⟨.info, "headless", "Executing " ++ Text.quoted path⟩] := by
  have unloaded : (Machine.initial.load program).fault? = some (.outOfBounds _ _) :=
    Machine.fault?_load_iff.mpr ⟨excess, rfl⟩
  constructor
  · simp [ofRun, exitCode, ofProgram, unloaded]
  · simp [ofRun, ofProgram, unloaded]
  · simp only [ofRun, ofProgram, unloaded]
    rfl

theorem tells_of_execution (fitting : program.length ≤ 3584) {final : Machine}
    {ending : Ending} {events : List Event}
    (executed : Execution.of stopOnLoop (fun event => event.level.heard threshold)
      (Machine.initial.load program).machine budget =
        ⟨final, ending, events.filter fun event => event.level.heard threshold⟩) :
    (ofRun ⟨path, budget, stopOnLoop⟩ threshold (.ok program)).Tells threshold
      (if (endingError? ending).isSome then 1 else 0) final.dump
      (⟨.info, "headless", "Executing " ++ Text.quoted path⟩ ::
        ((.loaded program.length :: events).map .ofEvent ++ endingRecords ending)) := by
  have loaded : Machine.initial.load program =
      .reporting (.loaded program.length) (.quiet (Machine.initial.load program).machine) := by
    rw [Machine.load_of_fitting Machine.initial (by change 0x200 + _ ≤ 4096; omega)]
    rfl
  have succeeded : (Machine.initial.load program).fault? = none := by
    rw [loaded]
    rfl
  have reported : (Machine.initial.load program).events = [.loaded program.length] := by
    rw [loaded]
    rfl
  constructor
  · simp only [ofRun, exitCode, ofProgram, succeeded, ofExecution, executed]
  · simp only [ofRun, ofProgram, succeeded, ofExecution, executed]
  · simp only [ofRun, ofProgram, succeeded, reported, ofExecution, executed]
    rw [← List.append_assoc, ← List.map_append, ← List.filter_append]
    exact LogRecord.filter_heard_records threshold _ _ _

/-- An execution that is the same for all budgets beyond a step settles what they
lead to. -/
theorem ofRun_settled {number : Nat} {execution : Execution}
    (decided : ∀ steps, number < steps →
      Execution.of stopOnLoop (fun event => event.level.heard threshold)
        (Machine.initial.load program).machine steps = execution)
    (below : number < budget) (more : budget ≤ larger) :
    ofRun ⟨path, larger, stopOnLoop⟩ threshold (.ok program) =
      ofRun ⟨path, budget, stopOnLoop⟩ threshold (.ok program) := by
  simp only [ofRun, ofProgram, decided budget below,
    decided larger (Nat.lt_of_lt_of_le below more)]

/-- What a run tells is settled by the first of its steps, below the budget, that
faults or leaves the program counter alone, where the latter counts only if it is
to stop the run. One record names it, with its number, its address and its fault,
and any larger budget leads to the same report. Without such a step the whole
budget is spent. -/
theorem ofRun_tells (path : String) (budget : Nat) (stopOnLoop : Bool)
    (threshold : Option Level) (program : List UInt8) :
    let report (steps : Nat) := ofRun ⟨path, steps, stopOnLoop⟩ threshold (.ok program)
    let machine := (Machine.initial.load program).machine
    let state (count : Nat) := (machine.run count).machine
    let announcement : LogRecord := ⟨.info, "headless", "Executing " ++ Text.quoted path⟩
    let records (count : Nat) (last : List LogRecord) : List LogRecord :=
      announcement ::
        ((.loaded program.length :: (machine.run count).events).map .ofEvent ++ last)
    (3584 < program.length → (report budget).Tells threshold 1 "" [announcement]) ∧
    (program.length ≤ 3584 →
      (∀ k fault, k < budget → machine.FaultsAt k fault →
        (stopOnLoop = true → ∀ l < k, ¬ machine.StallsAt l) →
          (∃ last, Ending.ofRecord? last = some (.failed k (state k).pc fault) ∧
            (report budget).Tells threshold 1 (state k).dump (records (k + 1) [last])) ∧
          (Level.error.heard threshold = true →
            (report budget).endings = [.failed k (state k).pc fault]) ∧
          ∀ larger, budget ≤ larger → report larger = report budget) ∧
      (∀ l, l < budget → stopOnLoop = true → machine.StallsAt l →
        (∀ earlier < l, ¬ machine.StallsAt earlier) →
          (∃ last, Ending.ofRecord? last = some (.looping (state l).pc (l + 1)) ∧
            (report budget).Tells threshold 0 (state (l + 1)).dump
              (records (l + 1) [last])) ∧
          (Level.info.heard threshold = true →
            (report budget).endings = [.looping (state l).pc (l + 1)]) ∧
          (budget < UInt64.size → l + 1 < UInt64.size) ∧
          ∀ larger, budget ≤ larger → report larger = report budget) ∧
      ((∀ k < budget, ∀ fault, ¬ machine.FaultsAt k fault) →
        (stopOnLoop = true → ∀ l < budget, ¬ machine.StallsAt l) →
          (machine.run budget).fault? = none ∧
          (report budget).Tells threshold 0 (state budget).dump (records budget []))) ∧
    ∀ event, (LogRecord.ofEvent event).level ≠ .error ∧
      (LogRecord.ofEvent event).level ≠ .info := by
  intro report machine state announcement records
  refine ⟨tells_of_excess, fun fitting => ⟨?_, ?_, ?_⟩, LogRecord.level_ofEvent⟩
  · intro k fault below faults onward
    have decided (steps : Nat) (enough : k < steps) :=
      Execution.of_eq_failed faults onward (fun event => event.level.heard threshold) enough
    have tells : (report budget).Tells threshold 1 (state k).dump (records (k + 1) [_]) :=
      tells_of_execution fitting (decided budget below)
    have named := Ending.ofRecord?_of_endingRecords
      (show endingRecords (.failed k (state k).pc fault) = [_] from rfl)
    exact ⟨⟨_, named, tells⟩, fun heard => tells.endings_eq heard named,
      fun _ => ofRun_settled decided below⟩
  · intro l below stops stalls onward
    cases stops
    have decided (steps : Nat) (enough : l < steps) :=
      Execution.of_eq_looping stalls onward (fun event => event.level.heard threshold) enough
    have tells : (report budget).Tells threshold 0 (state (l + 1)).dump
        (records (l + 1) [_]) := tells_of_execution fitting (decided budget below)
    have named := Ending.ofRecord?_of_endingRecords
      (show endingRecords (.looping (state l).pc (l + 1)) = [_] from rfl)
    exact ⟨⟨_, named, tells⟩, fun heard => tells.endings_eq heard named,
      fun bounded => Nat.lt_of_le_of_lt below bounded, fun _ => ofRun_settled decided below⟩
  · intro steady onward
    have succeeded := Machine.run_of_not_faultsAt steady
    exact ⟨succeeded,
      tells_of_execution fitting (Execution.of_eq_budgetSpent succeeded onward _)⟩

/-- A return at once, a jump to itself, an assignment, and a program that is one
byte too long. -/
theorem ofRun_tells_of_short_programs :
    let report (program : List UInt8) (budget : Nat) :=
      ofRun ⟨"rom.ch8", budget, true⟩ (some .info) (.ok program)
    let state (program : List UInt8) (count : Nat) :=
      ((Machine.initial.load program).machine.run count).machine
    let announcement : LogRecord := ⟨.info, "headless", "Executing \"rom.ch8\""⟩
    ((report [0x00, 0xEE] 1000).exitCode = 1 ∧
      (report [0x00, 0xEE] 1000).output = (state [0x00, 0xEE] 0).dump ∧
      (report [0x00, 0xEE] 1000).endings = [.failed 0 0x200 .stackUnderflow] ∧
      (report [0x00, 0xEE] 1000).log =
        [announcement,
          ⟨.error, "headless",
            "Step 0 at 0x200 failed: stack underflow: return with an empty call stack"⟩]) ∧
    ((report [0x12, 0x00] 1000).exitCode = 0 ∧
      (report [0x12, 0x00] 1000).output = (state [0x12, 0x00] 1).dump ∧
      (report [0x12, 0x00] 1000).endings = [.looping 0x200 1] ∧
      (report [0x12, 0x00] 1000).log =
        [announcement, ⟨.info, "headless", "Looping at 0x200 after 1 steps"⟩] ∧
      report [0x12, 0x00] 5000 = report [0x12, 0x00] 1000) ∧
    ((report [0x60, 0x2A] 1).exitCode = 0 ∧
      (report [0x60, 0x2A] 1).output = (state [0x60, 0x2A] 1).dump ∧
      (report [0x60, 0x2A] 1).log = [announcement]) ∧
    (report (List.replicate 3585 0) 1000).output = "" ∧
    (report (List.replicate 3585 0) 1000).log = [announcement] := by
  intro report state announcement
  let assigning := (Machine.initial.load [0x60, 0x2A]).machine
  have steady : ∀ k < 1, ∀ fault, ¬ assigning.FaultsAt k fault := by
    intro k first fault faults
    cases Nat.lt_one_iff.mp first
    have succeeded : (assigning.run 0).machine.step.fault? = none := by decide +kernel
    rw [faults.2] at succeeded
    cases succeeded
  have moving : true = true → ∀ l < 1, ¬ assigning.StallsAt l := by
    intro _ l first
    cases Nat.lt_one_iff.mp first
    decide +kernel
  have tells := fun budget => ofRun_tells "rom.ch8" budget true (some .info)
  rcases ((tells 1000 [0x00, 0xEE]).2.1 (by decide)).1
    0 .stackUnderflow (by decide) (by decide +kernel) (by simp) with
    ⟨⟨_, _, returns⟩, returnNamed, _⟩
  rcases ((tells 1000 [0x12, 0x00]).2.1 (by decide)).2.1
    0 (by decide) rfl (by decide +kernel) (by simp) with
    ⟨⟨_, _, jumps⟩, jumpNamed, _, settled⟩
  have assigns := ((tells 1 [0x60, 0x2A]).2.1 (by decide)).2.2 steady moving
  have excess := (tells 1000 (List.replicate 3585 0)).1
    (by rw [List.length_replicate]; decide)
  exact ⟨⟨returns.exitCode_eq, returns.output_eq, returnNamed rfl, by decide +kernel⟩,
    ⟨jumps.exitCode_eq, jumps.output_eq, jumpNamed rfl, by decide +kernel,
      settled 5000 (by decide)⟩,
    ⟨assigns.2.exitCode_eq, assigns.2.output_eq, by decide +kernel⟩,
    excess.output_eq, by decide +kernel⟩

end Report

end Headless

end Chip8
