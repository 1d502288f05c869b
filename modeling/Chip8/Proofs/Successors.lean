import Chip8.Proofs.Signals

/-! # Where execution continues

The program counter after an instruction, in integers modulo the size of memory.
Sixteen bits are enough to compute it: sums that do not fit into them are the
same modulo 4096. -/

namespace Chip8

/-! ## Conditions -/

namespace Condition

/-- Whether the registers are as the condition says. -/
def Met (registers : RegisterFile) : Condition → Prop
  | .equalsConstant x value => registers.read x = value
  | .differsFromConstant x value => registers.read x ≠ value
  | .equalsRegister x y => registers.read x = registers.read y
  | .differsFromRegister x y => registers.read x ≠ registers.read y

/-- The condition on the same operands that is met exactly where this one is
not. -/
def opposite : Condition → Condition
  | .equalsConstant x value => .differsFromConstant x value
  | .differsFromConstant x value => .equalsConstant x value
  | .equalsRegister x y => .differsFromRegister x y
  | .differsFromRegister x y => .equalsRegister x y

theorem holds_iff_met {registers : RegisterFile} {condition : Condition} :
    condition.holds registers = true ↔ condition.Met registers := by
  cases condition <;> simp [holds, Met]

instance (registers : RegisterFile) (condition : Condition) :
    Decidable (condition.Met registers) :=
  decidable_of_iff _ holds_iff_met

theorem met_opposite_iff {registers : RegisterFile} {condition : Condition} :
    condition.opposite.Met registers ↔ ¬ condition.Met registers := by
  cases condition <;> simp [opposite, Met]

end Condition

/-! ## Successors -/

/-- The location at which execution continues. A return has none if no routine
has been called. -/
def Turn.successor? (turn : Turn) : Option Nat :=
  let machine := turn.machine
  let pc := machine.pc.toNat
  match turn.instruction with
  | .jump target => some (target.word.toNat % 4096)
  | .call target => some (target.word.toNat % 4096)
  | .ret => machine.stack.toList.getLast?.map UInt16.toNat
  | .jumpOffset target =>
      some ((target.word.toNat + (machine.registers.read ⟨0⟩).toNat) % 4096)
  | .skipIf condition =>
      some (if condition.Met machine.registers then (pc + 4) % 4096 else (pc + 2) % 4096)
  | _ => some ((pc + 2) % 4096)

namespace Machine

theorem pc_execute_skipIf (machine : Machine) (condition : Condition) :
    (machine.execute (.skipIf condition)).machine.pc.toNat =
      if condition.Met machine.registers then (machine.pc.toNat + 4) % 4096
      else (machine.pc.toNat + 2) % 4096 := by
  rw [execute, advanceSkipping_eq_goTo, Outcome.machine_quiet, pc_goTo]
  by_cases met : condition.Met machine.registers
  · rw [if_pos met, if_pos (Condition.holds_iff_met.mpr met), toNat_following_following]
  · rw [if_neg met, if_neg fun holds => met (Condition.holds_iff_met.mp holds),
      toNat_following]

theorem successor?_of_success {machine : Machine} {instruction : Instruction}
    (succeeded : (machine.execute instruction).fault? = none) :
    Turn.successor? ⟨machine, instruction⟩ =
      some (machine.execute instruction).machine.pc.toNat := by
  cases instruction with
  | jump target => exact congrArg some (toNat_wrap _).symm
  | call target =>
      rcases execute_call_of_success succeeded with ⟨stack, _, entered⟩
      rw [entered]
      exact congrArg some (toNat_wrap _).symm
  | ret =>
      rcases execute_ret_of_success succeeded with ⟨address, stack, shape, left⟩
      rw [left, Turn.successor?, shape, List.getLast?_concat]
      rfl
  | jumpOffset target => exact congrArg some (toNat_wrap_add _ _).symm
  | skipIf condition => exact congrArg some (machine.pc_execute_skipIf condition).symm
  | _ => exact congrArg some (toNat_following _).symm

/-- An instruction that succeeds continues at the target of its jump or call, at
the latest return address, or else behind itself or, if it skips, behind the
instruction after it. On opposite conditions one skips and the other does not. -/
theorem pc_after_instruction (machine : Machine) :
    (∀ instruction, (machine.execute instruction).fault? = none →
      Turn.successor? ⟨machine, instruction⟩ =
        some (machine.execute instruction).machine.pc.toNat) ∧
      ∀ condition : Condition,
        let next := (machine.pc.toNat + 2) % 4096
        let skipped := (machine.pc.toNat + 4) % 4096
        let reached := machine.execute (.skipIf condition)
        let opposed := machine.execute (.skipIf condition.opposite)
        reached.fault? = none ∧ opposed.fault? = none ∧ next ≠ skipped ∧
          (reached.machine.pc.toNat = next ∧ opposed.machine.pc.toNat = skipped ∨
            reached.machine.pc.toNat = skipped ∧ opposed.machine.pc.toNat = next) := by
  refine ⟨fun instruction => successor?_of_success, ?_⟩
  intro condition next skipped reached opposed
  have apart : next ≠ skipped := by
    change (machine.pc.toNat + 2) % 4096 ≠ (machine.pc.toNat + 4) % 4096
    omega
  refine ⟨rfl, rfl, apart, ?_⟩
  rw [machine.pc_execute_skipIf condition, machine.pc_execute_skipIf condition.opposite]
  by_cases met : condition.Met machine.registers
  · have unmet : ¬ condition.opposite.Met machine.registers := fun other =>
      Condition.met_opposite_iff.mp other met
    exact .inr ⟨if_pos met, if_neg unmet⟩
  · exact .inl ⟨if_neg met, if_pos (Condition.met_opposite_iff.mpr met)⟩

/-- At the end of memory, with a target whose sum does not fit into sixteen bits:
a jump, and a skip that is taken. -/
theorem pc_after_instruction_at_the_end :
    let machine := initial.performAll
      [.execute (.assign ⟨0⟩ (.constant 0x83)), .execute (.jump ⟨0xFFE⟩)]
    let jumped := machine.execute (.jumpOffset ⟨0xFFFF⟩)
    let skipped := machine.execute (.skipIf (.equalsConstant ⟨0⟩ 0x83))
    jumped.fault? = none ∧
      Turn.successor? ⟨machine, .jumpOffset ⟨0xFFFF⟩⟩ = some jumped.machine.pc.toNat ∧
      jumped.machine.pc = 0x082 ∧ skipped.machine.pc = 0x002 := by
  intro machine jumped skipped
  have law := (pc_after_instruction machine).1 (.jumpOffset ⟨0xFFFF⟩) rfl
  exact ⟨rfl, law, by decide +kernel, by decide +kernel⟩

end Machine

end Chip8
