import Chip8.Proofs.Encoding
import Chip8.Proofs.Endings
import Chip8.Proofs.StopOnLoop
import Chip8.Proofs.Successors

/-! # Steps in place

A step leaves the program counter alone if its instruction leads to where it is,
and only jumps, calls and returns can. What comes after it is known: a jump stays
for ever, a call until the stack is full, and a return as long as the latest
return addresses name its own location. -/

namespace Chip8

/-! ## Instructions that lead to themselves -/

/-- Whether an instruction can continue anywhere but just behind itself and behind
the instruction after it. -/
def Instruction.transfers : Instruction → Bool
  | .jump _ => true
  | .jumpOffset _ => true
  | .call _ => true
  | .ret => true
  | _ => false

namespace Turn

/-- The target is the location of the instruction itself. -/
def LeadsToItself (turn : Turn) : Prop :=
  let machine := turn.machine
  let pc := machine.pc
  match turn.instruction with
  | .jump target => target.word = pc
  | .jumpOffset target =>
      (target.word.toNat + (machine.registers.read ⟨0⟩).toNat) % 4096 = pc.toNat
  | .call target => target.word = pc
  | .ret => machine.stack.toList.getLast? = some pc
  | _ => False

/-- Two and four are no multiples of the size of memory. -/
theorem successor?_ne {turn : Turn} (onward : turn.instruction.transfers = false) :
    turn.successor? ≠ some turn.machine.pc.toNat := by
  rcases turn with ⟨machine, instruction⟩
  have next : (machine.pc.toNat + 2) % 4096 ≠ machine.pc.toNat := by omega
  have skipped : (machine.pc.toNat + 4) % 4096 ≠ machine.pc.toNat := by omega
  cases instruction with
  | jump target => cases onward
  | jumpOffset target => cases onward
  | call target => cases onward
  | ret => cases onward
  | skipIf condition =>
      simp only [successor?, ne_eq, Option.some.injEq]
      split
      · exact skipped
      · exact next
  | _ => exact fun same => next (Option.some.inj same)

theorem leadsToItself_iff {turn : Turn} (encodable : turn.instruction.isEncodable = true) :
    turn.LeadsToItself ↔ turn.successor? = some turn.machine.pc.toNat := by
  rcases turn with ⟨machine, instruction⟩
  cases instruction with
  | jump target =>
      have fits := Address.fits_iff.mp encodable
      simp [LeadsToItself, successor?, Nat.mod_eq_of_lt fits, UInt16.toNat_inj]
  | call target =>
      have fits := Address.fits_iff.mp encodable
      simp [LeadsToItself, successor?, Nat.mod_eq_of_lt fits, UInt16.toNat_inj]
  | jumpOffset target => simp [LeadsToItself, successor?]
  | ret => simp [LeadsToItself, successor?, UInt16.toNat_inj]
  | _ => exact iff_of_false id (successor?_ne rfl)

end Turn

/-! ## Return addresses that repeat -/

namespace CallStack

/-- How many of the latest return addresses, one behind the other, are this one. -/
def repeats (stack : CallStack) (address : UInt16) : Nat :=
  (stack.toList.reverse.takeWhile (· = address)).length

theorem exists_below_repeats (stack : CallStack) (address : UInt16) :
    ∃ below : List UInt16,
      stack.toList = below ++ List.replicate (stack.repeats address) address ∧
      below.getLast? ≠ some address := by
  let newest := stack.toList.reverse
  have same : newest.takeWhile (· = address) =
      List.replicate (stack.repeats address) address := by
    apply List.eq_replicate_of_mem
    intro other member
    simpa using List.all_eq_true.mp List.all_takeWhile other member
  refine ⟨(newest.dropWhile (· = address)).reverse, ?_, ?_⟩
  · rw [← List.reverse_replicate, ← same, ← List.reverse_append,
      List.takeWhile_append_dropWhile, List.reverse_reverse]
  · intro last
    rw [List.getLast?_reverse] at last
    have different := List.head?_dropWhile_not (· = address) newest
    rw [last] at different
    simp at different

end CallStack

namespace Machine

variable {machine : Machine} {target : Address} {instruction : Instruction}

theorem step_of_upcoming (upcoming : machine.upcoming? = some instruction) :
    machine.step.machine = (machine.execute instruction).machine ∧
      machine.step.fault? = (machine.execute instruction).fault? :=
  machine_move_of_executed (show machine.executed? .step = some instruction from upcoming)

theorem isEncodable_of_upcoming (upcoming : machine.upcoming? = some instruction) :
    instruction.isEncodable = true := by
  rcases upcoming?_eq_some_iff.mp upcoming with ⟨opcode, _, rfl⟩
  exact Instruction.isEncodable_decode opcode

theorem upcoming?_of_success (succeeded : machine.step.fault? = none) :
    ∃ instruction, machine.upcoming? = some instruction := by
  cases fetched : machine.fetch with
  | error fault => simp [step_of_unfetched fetched] at succeeded
  | ok opcode => exact ⟨_, upcoming?_eq_some_iff.mpr ⟨opcode, fetched, rfl⟩⟩

/-! ## One step -/

theorem pc_execute_ne (machine : Machine) (onward : instruction.transfers = false) :
    (machine.execute instruction).machine.pc ≠ machine.pc := by
  have plain : instruction.usesStack = false := by
    cases instruction <;> simp_all [Instruction.transfers, Instruction.usesStack]
  have succeeded := (machine.execute_of_not_usesStack plain).1
  intro same
  apply @Turn.successor?_ne ⟨machine, instruction⟩ onward
  rw [successor?_of_success succeeded, same]

theorem step_pc_eq_iff (upcoming : machine.upcoming? = some instruction)
    (succeeded : machine.step.fault? = none) :
    machine.step.machine.pc = machine.pc ↔ Turn.LeadsToItself ⟨machine, instruction⟩ := by
  rcases step_of_upcoming upcoming with ⟨after, fault⟩
  rw [Turn.leadsToItself_iff (isEncodable_of_upcoming upcoming),
    successor?_of_success (fault ▸ succeeded), ← after, Option.some.injEq, UInt16.toNat_inj]

/-- Whatever return addresses a machine has in place of its own, a step that finds
these leaves those and changes nothing else. -/
def StepsInPlace (machine : Machine) (before after : List UInt16) : Prop :=
  ∀ stack : CallStack, stack.toList = before →
    ∃ next : CallStack, next.toList = after ∧
      { machine with stack }.step.fault? = none ∧
      { machine with stack }.step.machine = { machine with stack := next }

theorem stepsInPlace_of_call (calls : machine.upcoming? = some (.call target))
    (itself : target.word = machine.pc) {saved : List UInt16} (room : saved.length < 16) :
    machine.StepsInPlace saved (saved ++ [following machine.pc]) := by
  rintro stack rfl
  rw [CallStack.length_toList] at room
  have callsAgain : { machine with stack }.upcoming? = some (.call target) := calls
  have fits := Address.wrap_of_fits (isEncodable_of_upcoming calls)
  rcases @enterRoutine_of_room { machine with stack } room target with
    ⟨next, pushed, entered⟩
  rcases step_of_upcoming callsAgain with ⟨after, fault⟩
  rw [after, fault, execute, entered, fits, itself]
  exact ⟨next, pushed, rfl, rfl⟩

theorem stepsInPlace_of_ret (returns : machine.upcoming? = some .ret)
    (below : List UInt16) : machine.StepsInPlace (below ++ [machine.pc]) below := by
  intro stack shape
  have returnsAgain : { machine with stack }.upcoming? = some .ret := returns
  have occupied : 0 < stack.depth := by
    rw [← CallStack.length_toList, shape]
    simp
  rcases @leaveRoutine_of_occupied { machine with stack } occupied with
    ⟨address, next, popped, left⟩
  rcases step_of_upcoming returnsAgain with ⟨after, fault⟩
  rcases List.append_inj' (shape.symm.trans popped) rfl with ⟨sameBelow, sameTop⟩
  cases sameTop
  rw [after, fault, execute, left]
  exact ⟨next, sameBelow.symm, rfl, rfl⟩

/-! ## Runs -/

theorem run_in_place {entries : Nat → List UInt16} (count : Nat)
    (start : machine.stack.toList = entries 0)
    (steps : ∀ number < count, machine.StepsInPlace (entries number) (entries (number + 1))) :
    (machine.run count).fault? = none ∧
      ∃ stack : CallStack, stack.toList = entries count ∧
        (machine.run count).machine = { machine with stack } := by
  induction count with
  | zero => exact ⟨rfl, machine.stack, start, rfl⟩
  | succ count induction =>
      rcases induction fun number below => steps number (Nat.lt_succ_of_lt below) with
        ⟨succeeded, stack, shape, reached⟩
      rcases steps count (Nat.lt_succ_self count) stack shape with
        ⟨next, nextShape, stepSucceeded, stepped⟩
      rw [run_succ_last succeeded, reached]
      exact ⟨stepSucceeded, next, nextShape, stepped⟩

/-- Each of these steps succeeds and leaves the program counter alone. -/
theorem stallsAt_of_stepsInPlace {entries : Nat → List UInt16} {count : Nat}
    (start : machine.stack.toList = entries 0)
    (steps : ∀ number < count, machine.StepsInPlace (entries number) (entries (number + 1)))
    {number : Nat} (below : number < count) : machine.StallsAt number := by
  rcases run_in_place number start fun earlier least => steps earlier (by omega) with
    ⟨_, stack, _, before⟩
  rcases run_in_place (number + 1) start fun earlier least => steps earlier (by omega) with
    ⟨succeeded, next, _, after⟩
  exact ⟨succeeded, by rw [before, after]⟩

/-- A jump that leads to itself has no effect, now or later. -/
theorem atRest_of_jump (upcoming : machine.upcoming? = some instruction)
    (plain : instruction.usesStack = false)
    (same : machine.step.machine.pc = machine.pc) : machine.AtRest := by
  rcases step_of_upcoming upcoming with ⟨after, fault⟩
  rw [after] at same
  have quiet := execute_of_pc_eq plain same
  rw [atRest_iff, after, fault, quiet]
  exact ⟨rfl, rfl⟩

/-- A call that leads to itself leaves its return address as often as there is
room. -/
theorem overflows_of_call (calls : machine.upcoming? = some (.call target))
    (itself : target.word = machine.pc) :
    (∀ number < 16 - machine.stack.depth, machine.StallsAt number) ∧
      machine.FaultsAt (16 - machine.stack.depth)
        (.stackOverflow (following machine.pc)) := by
  let entries (number : Nat) : List UInt16 :=
    machine.stack.toList ++ List.replicate number (following machine.pc)
  have start : machine.stack.toList = entries 0 := (List.append_nil _).symm
  have steps : ∀ number < 16 - machine.stack.depth,
      machine.StepsInPlace (entries number) (entries (number + 1)) := by
    intro number room
    have length : (entries number).length < 16 := by
      simp only [entries, List.length_append, CallStack.length_toList, List.length_replicate]
      omega
    have deeper : entries (number + 1) = entries number ++ [following machine.pc] := by
      simp only [entries, List.replicate_succ', List.append_assoc]
    rw [deeper]
    exact stepsInPlace_of_call calls itself length
  refine ⟨fun number below => stallsAt_of_stepsInPlace start steps below, ?_⟩
  rcases run_in_place _ start steps with ⟨succeeded, stack, shape, reached⟩
  have full : stack.depth = 16 := by
    have bound := machine.stack.depth_le
    rw [← CallStack.length_toList, shape]
    simp only [entries, List.length_append, CallStack.length_toList, List.length_replicate]
    omega
  have callsAgain : { machine with stack }.upcoming? = some (.call target) := calls
  refine ⟨succeeded, ?_⟩
  rw [reached, (step_of_upcoming callsAgain).2, execute]
  exact congrArg Outcome.fault? (@enterRoutine_of_full { machine with stack } full target)

/-- A return that does not lead to itself underflows the stack or leaves. -/
theorem step_of_ret_elsewhere (returns : machine.upcoming? = some .ret)
    (elsewhere : machine.stack.toList.getLast? ≠ some machine.pc) :
    machine.step.fault? = some .stackUnderflow ∨
      ∃ address ≠ machine.pc, machine.stack.toList.getLast? = some address ∧
        machine.step.fault? = none ∧ machine.step.machine.pc = address := by
  rcases step_of_upcoming returns with ⟨after, fault⟩
  rcases Nat.eq_zero_or_pos machine.stack.depth with empty | occupied
  · left
    rw [fault, execute, leaveRoutine_of_empty empty]
    rfl
  · right
    rcases leaveRoutine_of_occupied occupied with ⟨address, next, popped, left⟩
    have top : machine.stack.toList.getLast? = some address := by
      rw [show machine.stack.toList = next.toList ++ [address] from popped,
        List.getLast?_concat]
    rw [execute, left] at after fault
    refine ⟨address, ?_, top, fault, congrArg Machine.pc after⟩
    rintro rfl
    exact elsewhere top

/-- A return that leads to itself takes away the return addresses that repeat its
location. The next one is different, or there is none. -/
theorem leaves_of_ret (returns : machine.upcoming? = some .ret) :
    let repeats := machine.stack.repeats machine.pc
    let last := (machine.run repeats).machine
    let next := machine.run (repeats + 1)
    (∀ number < repeats, machine.StallsAt number) ∧
      (machine.FaultsAt repeats .stackUnderflow ∨
        ∃ address ≠ machine.pc, last.stack.toList.getLast? = some address ∧
          next.fault? = none ∧ next.machine.pc = address) := by
  intro repeats last next
  rcases machine.stack.exists_below_repeats machine.pc with ⟨below, whole, different⟩
  let entries (number : Nat) : List UInt16 :=
    below ++ List.replicate (repeats - number) machine.pc
  have steps : ∀ number < repeats,
      machine.StepsInPlace (entries number) (entries (number + 1)) := by
    intro number left
    have higher : entries number = entries (number + 1) ++ [machine.pc] := by
      have one : repeats - number = repeats - (number + 1) + 1 := by omega
      simp only [entries, one, List.replicate_succ', List.append_assoc]
    rw [higher]
    exact stepsInPlace_of_ret returns _
  refine ⟨fun number left => stallsAt_of_stepsInPlace whole steps left, ?_⟩
  rcases run_in_place repeats whole steps with ⟨succeeded, stack, shape, reached⟩
  have left : stack.toList = below := by
    rw [shape]
    simp [entries]
  have lastIs : last = { machine with stack } := reached
  have returnsAgain : last.upcoming? = some .ret := lastIs ▸ returns
  have samePc : last.pc = machine.pc := by rw [lastIs]
  have elsewhere : last.stack.toList.getLast? ≠ some last.pc := by
    rw [samePc, lastIs, left]
    exact different
  have nextIs : next.fault? = last.step.fault? ∧ next.machine = last.step.machine := by
    simp only [next, run_succ_last succeeded, last, and_self]
  rw [nextIs.1, nextIs.2, ← samePc]
  rcases step_of_ret_elsewhere returnsAgain elsewhere with underflows | leaves
  · exact .inl ⟨succeeded, underflows⟩
  · exact .inr leaves

/-- What comes of an instruction that leads to itself. -/
def ContinuesInPlace (machine : Machine) : Instruction → Prop
  | .call _ =>
      let room := 16 - machine.stack.depth
      (∀ number < room, machine.StallsAt number) ∧
        machine.FaultsAt room (.stackOverflow (following machine.pc))
  | .ret =>
      let repeats := machine.stack.repeats machine.pc
      let last := (machine.run repeats).machine
      let next := machine.run (repeats + 1)
      (∀ number < repeats, machine.StallsAt number) ∧
        (machine.FaultsAt repeats .stackUnderflow ∨
          ∃ address ≠ machine.pc, last.stack.toList.getLast? = some address ∧
            next.fault? = none ∧ next.machine.pc = address)
  | _ => machine.AtRest

theorem continuesInPlace_of_leadsToItself (upcoming : machine.upcoming? = some instruction)
    (itself : Turn.LeadsToItself ⟨machine, instruction⟩) :
    machine.ContinuesInPlace instruction := by
  have stays (plain : instruction.usesStack = false) : machine.AtRest := by
    have succeeded : machine.step.fault? = none := by
      rw [(step_of_upcoming upcoming).2, (machine.execute_of_not_usesStack plain).1]
    exact atRest_of_jump upcoming plain ((step_pc_eq_iff upcoming succeeded).mpr itself)
  cases instruction with
  | call target => exact overflows_of_call upcoming itself
  | ret => exact leaves_of_ret upcoming
  | _ => exact stays rfl

/-- A step that succeeds leaves the program counter alone just if its instruction
is a jump, a call or a return to its own location; no other instruction ever does.
A jump then stays for good and changes nothing. A call stays until the stack is
full and then overflows it. A return stays as often as its location is repeated
among the latest return addresses, and then returns elsewhere or underflows. -/
theorem steps_in_place (machine : Machine) :
    (∀ instruction : Instruction, instruction.transfers = false →
      (machine.execute instruction).machine.pc ≠ machine.pc) ∧
    (machine.step.fault? = none →
      (machine.step.machine.pc = machine.pc ↔
        ∃ instruction, machine.upcoming? = some instruction ∧
          Turn.LeadsToItself ⟨machine, instruction⟩)) ∧
    ∀ instruction, machine.upcoming? = some instruction →
      Turn.LeadsToItself ⟨machine, instruction⟩ →
      machine.ContinuesInPlace instruction := by
  refine ⟨fun instruction => machine.pc_execute_ne, ?_,
    fun instruction => continuesInPlace_of_leadsToItself⟩
  intro succeeded
  rcases upcoming?_of_success succeeded with ⟨instruction, upcoming⟩
  rw [step_pc_eq_iff upcoming succeeded, upcoming]
  simp

/-- Two calls from in front of a return have left its location. The return stays
twice, and then leaves to where the first of three calls came from. -/
theorem steps_in_place_of_repeated_return :
    let machine := initial.performAll
      [.load [0x00, 0xEE],
        .executeAll [.call ⟨0x1FE⟩, .call ⟨0x1FE⟩, .call ⟨0x200⟩]]
    machine.step.fault? = none ∧ machine.upcoming? = some .ret ∧
      Turn.LeadsToItself ⟨machine, .ret⟩ ∧ machine.step.machine.pc = machine.pc ∧
      machine.stack.repeats machine.pc = 2 ∧ machine.ContinuesInPlace .ret := by
  intro machine
  have succeeded : machine.step.fault? = none := by decide +kernel
  have returns : machine.upcoming? = some .ret := by decide +kernel
  have itself : Turn.LeadsToItself ⟨machine, .ret⟩ := by
    change machine.stack.toList.getLast? = some machine.pc
    decide +kernel
  have repeated : machine.stack.repeats machine.pc = 2 := by decide +kernel
  rcases steps_in_place machine with ⟨_, stays, continues⟩
  exact ⟨succeeded, returns, itself, (stays succeeded).mpr ⟨_, returns, itself⟩, repeated,
    continues _ returns itself⟩

end Machine

end Chip8
