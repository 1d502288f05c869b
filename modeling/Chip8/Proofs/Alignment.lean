import Chip8.Proofs.Bounds
import Chip8.Proofs.Faults
import Chip8.Proofs.Turns

/-! # Even program counters

Instructions are two bytes wide, and programs start at an even location. As long
as no instruction jumps to an odd one, the program counter and all return
addresses stay even. Both bytes of every opcode then lie inside memory, because
the last location is odd. -/

namespace Chip8

/-! ## Even targets -/

/-- Where a jump or a call leads, before wrapping around. Other instructions
continue behind themselves or where a call has left off. -/
def Turn.target? (turn : Turn) : Option Nat :=
  match turn.instruction with
  | .jump target => some target.word.toNat
  | .call target => some target.word.toNat
  | .jumpOffset target =>
      some (target.word.toNat + (turn.machine.registers.read ⟨0⟩).toNat)
  | _ => none

def Turn.HasEvenTarget (turn : Turn) : Prop :=
  ∀ target ∈ turn.target?, target % 2 = 0

instance (turn : Turn) : Decidable turn.HasEvenTarget :=
  inferInstanceAs (Decidable (∀ target ∈ turn.target?, target % 2 = 0))

namespace Machine

structure Aligned (machine : Machine) : Prop where
  pc_even : machine.pc.toNat % 2 = 0
  address_even : ∀ address ∈ machine.stack.toList, address.toNat % 2 = 0

namespace Aligned

variable {machine : Machine}

theorem initial : Machine.initial.Aligned where
  pc_even := by decide
  address_even := by simp [Machine.initial]

theorem goTo (aligned : machine.Aligned) {pc : UInt16} (even : pc.toNat % 2 = 0) :
    (machine.goTo pc).Aligned :=
  ⟨even, aligned.address_even⟩

theorem following_even {pc : UInt16} (even : pc.toNat % 2 = 0) :
    (following pc).toNat % 2 = 0 := by
  rw [toNat_following]
  omega

theorem wrap_even {word : UInt16} (even : word.toNat % 2 = 0) :
    (wrap word).toNat % 2 = 0 := by
  rw [toNat_wrap]
  omega

theorem advance (aligned : machine.Aligned) : machine.advance.Aligned :=
  aligned.goTo (following_even aligned.pc_even)

theorem advanceSkipping (aligned : machine.Aligned) (condition : Condition) :
    (machine.advanceSkipping condition).Aligned := by
  rw [Machine.advanceSkipping]
  split
  · exact aligned.goTo (following_even (following_even aligned.pc_even))
  · exact aligned.advance

theorem enterRoutine (aligned : machine.Aligned) {target : Address}
    (even : target.word.toNat % 2 = 0) : (machine.enterRoutine target).machine.Aligned := by
  rcases Nat.lt_or_eq_of_le machine.stack.depth_le with room | full
  · rcases enterRoutine_of_room room target with ⟨stack, pushed, entered⟩
    have saved : ∀ address ∈ stack.toList, address.toNat % 2 = 0 := by
      rw [pushed, List.forall_mem_append]
      exact ⟨aligned.address_even, by
        simpa using following_even aligned.pc_even⟩
    rw [entered]
    exact ⟨wrap_even even, saved⟩
  · rw [enterRoutine_of_full full]
    exact aligned

theorem leaveRoutine (aligned : machine.Aligned) :
    machine.leaveRoutine.machine.Aligned := by
  rcases Nat.eq_zero_or_pos machine.stack.depth with empty | occupied
  · rw [leaveRoutine_of_empty empty]
    exact aligned
  · rcases leaveRoutine_of_occupied occupied with ⟨address, stack, popped, left⟩
    have saved := aligned.address_even
    rw [popped, List.forall_mem_append, List.forall_mem_singleton] at saved
    rw [left]
    exact ⟨saved.2, saved.1⟩

/-- Sixteen bits are enough to see whether a sum is even, also where it does not
fit into them. -/
theorem jumpOffset (aligned : machine.Aligned) {target : Address}
    (even : (target.word.toNat + (machine.registers.read ⟨0⟩).toNat) % 2 = 0) :
    (machine.execute (.jumpOffset target)).machine.Aligned := by
  apply aligned.goTo
  rw [toNat_wrap, UInt16.toNat_add, UInt8.toNat_toUInt16]
  omega

theorem execute (aligned : machine.Aligned) {instruction : Instruction}
    (even : Turn.HasEvenTarget ⟨machine, instruction⟩) :
    (machine.execute instruction).machine.Aligned := by
  cases instruction with
  | ret => exact aligned.leaveRoutine
  | jump target => exact aligned.goTo (wrap_even (even _ rfl))
  | call target => exact aligned.enterRoutine (even _ rfl)
  | jumpOffset target => exact aligned.jumpOffset (even _ rfl)
  | skipIf condition => exact aligned.advanceSkipping condition
  | _ => exact ⟨aligned.advance.pc_even, aligned.address_even⟩

theorem load (aligned : machine.Aligned) (program : List UInt8) :
    (machine.load program).machine.Aligned := by
  rw [Machine.load]
  split
  · exact ⟨aligned.pc_even, aligned.address_even⟩
  · exact aligned

theorem invariant : InvariantWhile Turn.HasEvenTarget Aligned where
  load _ program aligned := aligned.load program
  execute _ aligned even := aligned.execute even

theorem performAll (aligned : machine.Aligned) {operations : List Operation}
    (even : ∀ turn ∈ machine.turnsAll operations, turn.HasEvenTarget) :
    (machine.performAll operations).Aligned :=
  invariant.performAll aligned even

/-- The only location whose opcode does not lie inside memory is the last one,
and it is odd. -/
theorem step_fault?_ne (aligned : machine.Aligned) (bounded : machine.Bounded)
    (address length : Nat) :
    machine.step.fault? ≠ some (.outOfBounds address length) := by
  rw [ne_eq, fault?_step_iff bounded]
  have even := aligned.pc_even
  rintro (⟨last, _⟩ | ⟨_, _, _, other⟩ | ⟨_, _, _, other⟩)
  · omega
  · cases other
  · cases other

end Aligned

/-- If no turn of some operations has an odd target, the program counter and all
return addresses are even after each of their moves, and no step fails to fetch
its opcode. So such a failure has an odd target before it. -/
theorem aligned_of_even_targets (operations : List Operation) :
    let turns := initial.turnsAll operations
    let moves := initial.movesAll operations
    ((∀ turn ∈ turns, turn.HasEvenTarget) →
      ∀ number,
        let machine := initial.moveAll (moves.take number)
        machine.pc.toNat % 2 = 0 ∧
          (∀ address ∈ machine.stack.toList, address.toNat % 2 = 0) ∧
          ∀ address length, machine.step.fault? ≠ some (.outOfBounds address length)) ∧
      ∀ address length,
        (initial.performAll operations).step.fault? = some (.outOfBounds address length) →
          ∃ turn ∈ turns, ¬ turn.HasEvenTarget := by
  intro turns moves
  constructor
  · intro even number machine
    have reached : initial.performAll ((moves.take number).map Move.operation) = machine :=
      performAll_map_operation _ _
    have aligned : machine.Aligned := by
      rw [← reached]
      exact Aligned.initial.performAll fun turn member =>
        even turn (mem_turnsAll_of_take member)
    have bounded : machine.Bounded := by
      rw [← reached]
      exact Bounded.initial.performAll _
    exact ⟨aligned.pc_even, aligned.address_even, aligned.step_fault?_ne bounded⟩
  · intro address length unfetched
    have bounded := Bounded.initial.performAll operations
    have odd : ¬ ∀ turn ∈ turns, turn.HasEvenTarget := fun even =>
      (Aligned.initial.performAll even).step_fault?_ne bounded address length unfetched
    simp only [Classical.not_forall, exists_prop] at odd
    exact odd

/-- The program counter wraps around at the end of memory, and a routine is called
from there that skips and jumps. A jump to the last location is the odd one. -/
theorem aligned_of_even_targets_across_the_end :
    let even : List Operation :=
      [.execute (.jump ⟨0xFFE⟩), .execute (.assign ⟨0⟩ (.constant 0x83)), .step,
        .executeAll
          [.call ⟨0xF300⟩, .skipIf (.equalsConstant ⟨0⟩ 0x83), .jumpOffset ⟨0x101⟩]]
    let machine := initial.moveAll ((initial.movesAll even).take 5)
    let odd : List Operation := [.execute (.jump ⟨0x1FFF⟩)]
    (∀ turn ∈ initial.turnsAll even, turn.HasEvenTarget) ∧
      machine.pc = 0x304 ∧ machine.stack.toList = [0x004] ∧
      (∀ address length, machine.step.fault? ≠ some (.outOfBounds address length)) ∧
      (initial.performAll odd).step.fault? = some (.outOfBounds 0xFFF 2) ∧
      ∃ turn ∈ initial.turnsAll odd, ¬ turn.HasEvenTarget := by
  intro even machine odd
  have targets : ∀ turn ∈ initial.turnsAll even, turn.HasEvenTarget := by decide +kernel
  have pc : machine.pc = 0x304 := by decide +kernel
  have stack : machine.stack.toList = [0x004] := by decide +kernel
  have unfetched : (initial.performAll odd).step.fault? = some (.outOfBounds 0xFFF 2) := by
    decide +kernel
  exact ⟨targets, pc, stack, ((aligned_of_even_targets even).1 targets 5).2.2, unfetched,
    (aligned_of_even_targets odd).2 _ _ unfetched⟩

end Machine

end Chip8
