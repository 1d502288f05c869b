import Chip8.Proofs.Faults
import Chip8.Proofs.Signals

/-! # Calls and returns as a walk

A list of instructions goes up the call stack with each call and down with each
return. It succeeds if this walk stays within the stack, and it stops at the first
call or return that leads out. Nothing else has a say in it. -/

namespace Chip8

universe u

/-! ## Levels -/

inductive Link where
  | call
  | ret
deriving DecidableEq

def Instruction.link? : Instruction → Option Link
  | .call _ => some .call
  | .ret => some .ret
  | _ => none

/-- The calls and returns among instructions, in order. -/
def links (instructions : List Instruction) : List Link :=
  instructions.filterMap Instruction.link?

theorem links_append (first second : List Instruction) :
    links (first ++ second) = links first ++ links second :=
  List.filterMap_append

theorem links_of_not_usesStack {instruction : Instruction}
    (plain : instruction.usesStack = false) : links [instruction] = [] := by
  cases instruction with
  | call target => cases plain
  | ret => cases plain
  | _ => rfl

namespace Walk

/-- The level that calls and returns lead to, as far up or down as it may be. -/
def level (depth : Int) (links : List Link) : Int :=
  depth + links.count .call - links.count .ret

/-- Whether a level is the depth of some call stack. -/
def Fits (level : Int) : Prop := 0 ≤ level ∧ level ≤ 16

instance (level : Int) : Decidable (Fits level) :=
  inferInstanceAs (Decidable (_ ∧ _))

/-- Wherever these instructions are interrupted, the level fits. -/
def StaysWithin (depth : Int) (instructions : List Instruction) : Prop :=
  ∀ taken, taken <+: instructions → Fits (level depth (links taken))

/-- The instruction is the first one, after those before it, that leads to a level
that does not fit. -/
structure LeavesAt (depth : Int) (before : List Instruction) (instruction : Instruction) :
    Prop where
  within : StaysWithin depth before
  outside : ¬ Fits (level depth (links (before ++ [instruction])))

variable {depth : Int} {instruction : Instruction} {instructions : List Instruction}

@[simp] theorem level_nil (depth : Int) : level depth [] = depth := by
  simp [level]

theorem level_call (depth : Int) (target : Address) :
    level depth (links [.call target]) = depth + 1 :=
  Int.sub_zero _

theorem level_ret (depth : Int) : level depth (links [.ret]) = depth - 1 := by
  simp [level, links, Instruction.link?]

theorem level_append (depth : Int) (first second : List Link) :
    level depth (first ++ second) = level (level depth first) second := by
  simp only [level, List.count_append]
  omega

theorem level_links_cons (depth : Int) (instruction : Instruction)
    (rest : List Instruction) :
    level depth (links (instruction :: rest)) =
      level (level depth (links [instruction])) (links rest) := by
  rw [← level_append, ← links_append]
  rfl

theorem staysWithin_nil : StaysWithin depth [] ↔ Fits depth := by
  simp [StaysWithin, links]

theorem staysWithin_cons {rest : List Instruction} :
    StaysWithin depth (instruction :: rest) ↔
      Fits depth ∧ StaysWithin (level depth (links [instruction])) rest := by
  constructor
  · intro within
    refine ⟨by simpa [links] using within [] List.nil_prefix, ?_⟩
    intro taken start
    rw [← level_links_cons]
    exact within _ (List.cons_prefix_cons.mpr ⟨rfl, start⟩)
  · rintro ⟨fits, later⟩ taken start
    rcases List.prefix_cons_iff.mp start with rfl | ⟨remaining, rfl, inside⟩
    · simpa [links] using fits
    · rw [level_links_cons]
      exact later remaining inside

instance decidableStaysWithin : (depth : Int) → (instructions : List Instruction) →
    Decidable (StaysWithin depth instructions)
  | _, [] => decidable_of_iff _ staysWithin_nil.symm
  | depth, instruction :: rest =>
      have := decidableStaysWithin (level depth (links [instruction])) rest
      decidable_of_iff _ staysWithin_cons.symm

/-- A walk that does not stay within the stack leaves it at some instruction. -/
theorem exists_leavesAt (fits : Fits depth) (leaves : ¬ StaysWithin depth instructions) :
    ∃ before instruction after, instructions = before ++ instruction :: after ∧
      LeavesAt depth before instruction := by
  induction instructions generalizing depth with
  | nil => exact absurd (staysWithin_nil.mpr fits) leaves
  | cons first rest induction =>
      by_cases next : Fits (level depth (links [first]))
      · have later : ¬ StaysWithin (level depth (links [first])) rest := fun within =>
          leaves (staysWithin_cons.mpr ⟨fits, within⟩)
        rcases induction next later with ⟨before, instruction, after, shape, leavesAt⟩
        refine ⟨first :: before, instruction, after, by rw [shape]; rfl, ?_, ?_⟩
        · exact staysWithin_cons.mpr ⟨fits, leavesAt.within⟩
        · rw [List.cons_append, level_links_cons]
          exact leavesAt.outside
      · exact ⟨[], first, rest, rfl, staysWithin_nil.mpr fits, next⟩

end Walk

namespace Machine

open Walk

variable {machine : Machine} {instruction : Instruction} {instructions : List Instruction}

/-! ## One instruction -/

theorem fits_depth (machine : Machine) : Fits machine.stack.depth := by
  have bound := machine.stack.depth_le
  constructor <;> omega

theorem execute_succeeds_iff :
    (machine.execute instruction).fault? = none ↔
      Fits (level machine.stack.depth (links [instruction])) := by
  have bound := machine.stack.depth_le
  cases linking : instruction.usesStack with
  | false =>
      rw [links_of_not_usesStack linking, level_nil]
      exact iff_of_true (machine.execute_of_not_usesStack linking).1 machine.fits_depth
  | true =>
      rcases Instruction.usesStack_iff.mp linking with ⟨target, rfl⟩ | rfl
      · rw [level_call, execute]
        rcases Nat.lt_or_eq_of_le bound with room | full
        · rcases enterRoutine_of_room room target with ⟨stack, _, entered⟩
          rw [entered]
          exact iff_of_true rfl ⟨by omega, by omega⟩
        · rw [enterRoutine_of_full full, full]
          exact iff_of_false (by simp) (by decide)
      · rw [level_ret, execute]
        rcases Nat.eq_zero_or_pos machine.stack.depth with empty | occupied
        · rw [leaveRoutine_of_empty empty, empty]
          exact iff_of_false (by simp) (by decide)
        · rcases leaveRoutine_of_occupied occupied with ⟨address, stack, _, left⟩
          rw [left]
          exact iff_of_true rfl ⟨by omega, by omega⟩

theorem depth_of_success (succeeded : (machine.execute instruction).fault? = none) :
    ((machine.execute instruction).machine.stack.depth : Int) =
      level machine.stack.depth (links [instruction]) := by
  cases linking : instruction.usesStack with
  | false =>
      rw [links_of_not_usesStack linking, level_nil,
        (machine.execute_of_not_usesStack linking).2]
  | true =>
      rcases Instruction.usesStack_iff.mp linking with ⟨target, rfl⟩ | rfl
      · rcases execute_call_of_success succeeded with ⟨stack, pushed, entered⟩
        have deeper := CallStack.depth_of_toList_append pushed
        rw [level_call, entered]
        exact congrArg Int.ofNat deeper
      · rcases execute_ret_of_success succeeded with ⟨address, stack, popped, left⟩
        have deeper := CallStack.depth_of_toList_append popped
        rw [level_ret, left, deeper]
        exact (Int.add_sub_cancel _ 1).symm

/-! ## Lists -/

theorem executeAll_succeeds_iff :
    (machine.executeAll instructions).fault? = none ↔
      StaysWithin machine.stack.depth instructions := by
  induction instructions generalizing machine with
  | nil => exact iff_of_true rfl (staysWithin_nil.mpr machine.fits_depth)
  | cons instruction rest induction =>
      rw [executeAll, Outcome.fault?_andThen_eq_none_iff, staysWithin_cons, induction]
      constructor
      · rintro ⟨succeeded, later⟩
        rw [depth_of_success succeeded] at later
        exact ⟨machine.fits_depth, later⟩
      · rintro ⟨_, later⟩
        have fits := later [] List.nil_prefix
        have succeeded : (machine.execute instruction).fault? = none :=
          execute_succeeds_iff.mpr (by simpa [links] using fits)
        rw [depth_of_success succeeded]
        exact ⟨succeeded, later⟩

theorem depth_of_executeAll_success
    (succeeded : (machine.executeAll instructions).fault? = none) :
    ((machine.executeAll instructions).machine.stack.depth : Int) =
      level machine.stack.depth (links instructions) := by
  induction instructions generalizing machine with
  | nil => simp [executeAll, links]
  | cons instruction rest induction =>
      rw [executeAll] at succeeded ⊢
      rcases Outcome.fault?_andThen_eq_none_iff.mp succeeded with ⟨first, later⟩
      rw [Outcome.andThen_of_success first, level_links_cons, ← depth_of_success first]
      exact induction later

/-- Instructions stop at the one that leaves the stack, and what they have done by
then is what those before it do. -/
theorem executeAll_of_leavesAt {before : List Instruction}
    (leavesAt : LeavesAt machine.stack.depth before instruction)
    (after : List Instruction) :
    let reached := machine.executeAll before
    reached.fault? = none ∧
      ∃ fault, (reached.machine.execute instruction).fault? = some fault ∧
        machine.executeAll (before ++ instruction :: after) =
          { reached with fault? := some fault } := by
  intro reached
  have succeeded : reached.fault? = none := executeAll_succeeds_iff.mpr leavesAt.within
  have outside := leavesAt.outside
  -- The level before the instruction is the depth that it finds, so it finds no room.
  rw [links_append, level_append, ← depth_of_executeAll_success succeeded,
    ← execute_succeeds_iff] at outside
  rcases Option.ne_none_iff_exists'.mp outside with ⟨fault, faulted⟩
  have stopped := execute_eq_stopped faulted
  refine ⟨succeeded, fault, faulted, ?_⟩
  rw [executeAll_append, Outcome.andThen_of_success succeeded, executeAll,
    Outcome.andThen_of_fault faulted, stopped]
  simp [reached]

end Machine

/-! ## What decides where a list stops -/

def Fault.link? : Fault → Option Link
  | .stackOverflow _ => some .call
  | .stackUnderflow => some .ret
  | .outOfBounds _ _ => none

/-- The calls and returns that succeed, and the one that does not, if there is
one. -/
structure Walk where
  passed : List Link
  refused? : Option Link
deriving DecidableEq

/-- The walk from a depth, with no machine to take it. -/
def Walk.starting (depth : Int) : List Link → Walk
  | [] => ⟨[], none⟩
  | link :: rest =>
      if Fits (level depth [link]) then
        let later := starting (level depth [link]) rest
        { later with passed := link :: later.passed }
      else
        ⟨[], some link⟩

namespace Machine

open Walk

/-- The walk that a machine takes. -/
def walk (machine : Machine) (instructions : List Instruction) : Walk where
  passed := links ((machine.turnsOf instructions).map Turn.instruction)
  refused? := (machine.executeAll instructions).fault?.bind Fault.link?

theorem link?_of_fault {machine : Machine} {instruction : Instruction} {fault : Fault}
    (faulted : (machine.execute instruction).fault? = some fault) :
    fault.link? = instruction.link? := by
  rcases fault?_execute_iff.mp faulted with ⟨⟨target, rfl⟩, _, rfl⟩ | ⟨rfl, _, rfl⟩
  · rfl
  · rfl

theorem walk_of_fault {machine : Machine} {instruction : Instruction} {fault : Fault}
    (faulted : (machine.execute instruction).fault? = some fault)
    (rest : List Instruction) :
    machine.walk (instruction :: rest) = ⟨[], instruction.link?⟩ := by
  rw [walk, turnsOf, executeAll, Outcome.andThen_of_fault faulted, faulted]
  exact congrArg (Walk.mk []) (link?_of_fault faulted)

theorem walk_of_success {machine : Machine} {instruction : Instruction}
    (succeeded : (machine.execute instruction).fault? = none)
    (rest : List Instruction) :
    let later := (machine.execute instruction).machine.walk rest
    machine.walk (instruction :: rest) =
      ⟨links [instruction] ++ later.passed, later.refused?⟩ := by
  intro later
  rw [walk, turnsOf, executeAll, Outcome.andThen_of_success succeeded, succeeded]
  exact congrArg (Walk.mk · _) (links_append [instruction] _)

theorem walk_eq (machine : Machine) (instructions : List Instruction) :
    machine.walk instructions = .starting machine.stack.depth (links instructions) := by
  induction instructions generalizing machine with
  | nil => rfl
  | cons instruction rest induction =>
      rw [show links (instruction :: rest) = links [instruction] ++ links rest from
        links_append [instruction] rest]
      cases faulted : (machine.execute instruction).fault? with
      | some fault =>
          have outside : ¬ Fits (level machine.stack.depth (links [instruction])) := by
            rw [← execute_succeeds_iff, faulted]
            simp
          rw [walk_of_fault faulted]
          -- Only a call or a return leads anywhere, so the one that faults is a link.
          cases linked : instruction.link? with
          | none => simp [links, linked, machine.fits_depth] at outside
          | some link =>
              have single : links [instruction] = [link] := by simp [links, linked]
              rw [single] at outside ⊢
              exact (if_neg outside).symm
      | none =>
          have fits := execute_succeeds_iff.mp faulted
          rw [walk_of_success faulted, induction, depth_of_success faulted]
          cases linked : instruction.link? with
          | none => simp [links, linked]
          | some link =>
              have single : links [instruction] = [link] := by simp [links, linked]
              rw [single] at fits ⊢
              exact (if_pos fits).symm

end Machine

open Walk

/-- Instructions all succeed just if the walk of their calls and returns stays
within the stack. Otherwise there is a first one that leads out, and there they
stop: a call overflows the stack and a return underflows it, and machine and
peripheral are as the instructions before it leave them. Where this is depends on
nothing but the depth of the stack and the order of calls and returns. -/
theorem Console.executeAll_follows_walk {State : Type u} (peripheral : Peripheral State)
    (console : Console State) (instructions : List Instruction) :
    let machine := console.machine
    let depth := machine.stack.depth
    let outcome := machine.executeAll instructions
    (outcome.fault? = none ↔ StaysWithin depth instructions) ∧
      (¬ StaysWithin depth instructions →
        ∃ before instruction after, instructions = before ++ instruction :: after ∧
          LeavesAt depth before instruction) ∧
      (∀ before instruction after, instructions = before ++ instruction :: after →
        LeavesAt depth before instruction →
        let reached := machine.executeAll before
        reached.fault? = none ∧
          console.absorb peripheral outcome = console.absorb peripheral reached ∧
          ((∃ target, instruction = .call target) ∧
              outcome.fault? = some (.stackOverflow
                (.ofNat ((reached.machine.pc.toNat + 2) % 4096))) ∨
            instruction = .ret ∧ outcome.fault? = some .stackUnderflow)) ∧
      ∀ (other : Machine) (others : List Instruction), other.stack.depth = depth →
        links others = links instructions →
        other.walk others = machine.walk instructions := by
  intro machine depth outcome
  refine ⟨Machine.executeAll_succeeds_iff, exists_leavesAt machine.fits_depth, ?_, ?_⟩
  · intro before instruction after shape leavesAt reached
    rcases Machine.executeAll_of_leavesAt leavesAt after with
      ⟨succeeded, fault, faulted, stopped⟩
    rw [show outcome = { reached with fault? := some fault } from
      (congrArg machine.executeAll shape).trans stopped]
    refine ⟨succeeded, rfl, ?_⟩
    rcases Machine.fault?_execute_iff.mp faulted with ⟨calls, _, rfl⟩ | ⟨returns, _, rfl⟩
    · exact .inl ⟨calls, by rw [following_eq_ofNat]⟩
    · exact .inr ⟨returns, rfl⟩
  · intro other others sameDepth sameLinks
    rw [Machine.walk_eq, Machine.walk_eq, sameDepth, sameLinks]

/-- Fourteen subroutines are open already. The walk climbs, comes back, and climbs twice to
the top; the call after that, at the end of memory, would leave by it. -/
theorem Console.executeAll_follows_walk_to_the_top :
    let console := (initial Recording.empty).performAll Recording.peripheral
      [.executeAll (List.replicate 14 (.call ⟨0x300⟩))]
    let before : List Instruction :=
      [.call ⟨0x400⟩, .draw ⟨0⟩ ⟨0⟩ 1, .ret, .call ⟨0x500⟩, .clearScreen, .call ⟨0xFFC⟩,
        .nop]
    let outcome := console.machine.executeAll (before ++ .call ⟨0x600⟩ :: [.ret, .nop])
    let reached := console.machine.executeAll before
    LeavesAt console.machine.stack.depth before (.call ⟨0x600⟩) ∧
      outcome.fault? = some (.stackOverflow 0x000) ∧
      console.absorb Recording.peripheral outcome =
        console.absorb Recording.peripheral reached := by
  intro console before outcome reached
  have leavesAt : LeavesAt console.machine.stack.depth before (.call ⟨0x600⟩) :=
    ⟨by decide +kernel, by decide +kernel⟩
  have law := executeAll_follows_walk Recording.peripheral console
    (before ++ .call ⟨0x600⟩ :: [.ret, .nop])
  have fault : outcome.fault? = some (.stackOverflow 0x000) := by decide +kernel
  exact ⟨leavesAt, fault, (law.2.2.1 before _ _ rfl leavesAt).2.1⟩

end Chip8
