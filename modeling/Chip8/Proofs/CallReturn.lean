import Chip8.Proofs.Move

/-! # Calls and returns match

While the stack stays at least as deep as a call has made it, what lies up to
that depth is never touched. So a return from that depth finds the address that
the call left, and uncovers the caller's stack. -/

namespace Chip8

/-- The ways in which one move changes what a call stack shows. -/
inductive CallStack.Change (before after : CallStack) : Prop where
  | unchanged (same : after.toList = before.toList)
  | pushed (address : UInt16) (shape : after.toList = before.toList ++ [address])
  | popped (address : UInt16) (shape : before.toList = after.toList ++ [address])

namespace Machine

/-! ## One move at the top of the stack -/

theorem stack_execute (machine : Machine) (instruction : Instruction) :
    machine.stack.Change (machine.execute instruction).machine.stack := by
  cases linking : instruction.usesStack with
  | false =>
      rw [(machine.execute_of_not_usesStack linking).2]
      exact .unchanged rfl
  | true =>
      rcases Instruction.usesStack_iff.mp linking with ⟨target, rfl⟩ | rfl
      · rw [execute]
        rcases Nat.lt_or_eq_of_le machine.stack.depth_le with room | full
        · rcases enterRoutine_of_room room target with ⟨stack, shape, entered⟩
          rw [entered]
          exact .pushed _ shape
        · rw [enterRoutine_of_full full]
          exact .unchanged rfl
      · rw [execute]
        rcases Nat.eq_zero_or_pos machine.stack.depth with empty | occupied
        · rw [leaveRoutine_of_empty empty]
          exact .unchanged rfl
        · rcases leaveRoutine_of_occupied occupied with ⟨address, stack, shape, left⟩
          rw [left]
          exact .popped address shape

theorem stack_move (machine : Machine) (move : Move) :
    machine.stack.Change (machine.move move).machine.stack := by
  cases executed : machine.executed? move with
  | none =>
      rcases machine_move_of_unexecuted executed with ⟨memory, same⟩
      rw [same]
      exact .unchanged rfl
  | some instruction =>
      rw [(machine_move_of_executed executed).1]
      exact machine.stack_execute instruction

/-- A move that leaves the stack at least as deep as its lowest entries reach
leaves these entries alone. -/
theorem prefix_stack_move {machine : Machine} {move : Move} {lowest : List UInt16}
    (kept : lowest <+: machine.stack.toList)
    (deep : lowest.length ≤ (machine.move move).machine.stack.depth) :
    lowest <+: (machine.move move).machine.stack.toList := by
  rw [← CallStack.length_toList] at deep
  cases machine.stack_move move with
  | unchanged same =>
      rw [same]
      exact kept
  | pushed address shape =>
      rw [shape]
      exact kept.trans (List.prefix_append _ _)
  | popped address shape =>
      rw [shape] at kept
      exact List.prefix_of_prefix_length_le kept (List.prefix_append _ _) deep

/-! ## Runs above a depth -/

/-- After each of the moves the stack is at least so deep. -/
def KeepsDepth (machine : Machine) (depth : Nat) : List Move → Prop
  | [] => True
  | first :: rest =>
      depth ≤ (machine.move first).machine.stack.depth ∧
        (machine.move first).machine.KeepsDepth depth rest

instance decidableKeepsDepth (depth : Nat) : (machine : Machine) →
    (moves : List Move) → Decidable (machine.KeepsDepth depth moves)
  | _, [] => .isTrue trivial
  | machine, first :: rest =>
      have := decidableKeepsDepth depth (machine.move first).machine rest
      inferInstanceAs (Decidable (_ ∧ _))

theorem prefix_stack_moveAll {machine : Machine} {moves : List Move}
    {lowest : List UInt16} (kept : lowest <+: machine.stack.toList)
    (deep : machine.KeepsDepth lowest.length moves) :
    lowest <+: (machine.moveAll moves).stack.toList := by
  induction moves generalizing machine with
  | nil => exact kept
  | cons first rest induction =>
      exact induction (prefix_stack_move kept deep.1) deep.2

/-! ## The caller and its routine -/

theorem toList_stack_of_call {caller : Machine} {calling : Move} {target : Address}
    (calls : caller.executed? calling = some (.call target))
    (room : caller.stack.depth < 16) :
    (caller.move calling).machine.stack.toList =
      caller.stack.toList ++ [following caller.pc] := by
  rcases enterRoutine_of_room room target with ⟨stack, pushed, entered⟩
  rw [(machine_move_of_executed calls).1, execute, entered]
  exact pushed

theorem move_of_ret {machine : Machine} {returning : Move} {below : List UInt16}
    {address : UInt16} (returns : machine.executed? returning = some .ret)
    (occupied : machine.stack.toList = below ++ [address]) :
    (machine.move returning).fault? = none ∧
      (machine.move returning).machine.pc = address ∧
      (machine.move returning).machine.stack.toList = below := by
  have positive : 0 < machine.stack.depth := by
    rw [← CallStack.length_toList, occupied]
    simp
  rcases leaveRoutine_of_occupied positive with ⟨top, stack, popped, left⟩
  rw [occupied] at popped
  rcases List.append_inj' popped rfl with ⟨sameBelow, sameTop⟩
  cases sameTop
  rw [(machine_move_of_executed returns).1, (machine_move_of_executed returns).2,
    execute, left]
  exact ⟨rfl, rfl, sameBelow.symm⟩

/-- A return at the depth of a call leads back behind the call, to the stack
from before it, whatever has happened at or above that depth meanwhile. -/
theorem ret_restores_caller {caller : Machine} {calling : Move} {target : Address}
    (calls : caller.executed? calling = some (.call target))
    (room : caller.stack.depth < 16) (body : List Operation)
    (deep : (caller.move calling).machine.KeepsDepth (caller.stack.depth + 1)
      ((caller.move calling).machine.movesAll body)) :
    let routine := (caller.move calling).machine.performAll body
    caller.stack.toList ++ [following caller.pc] <+: routine.stack.toList ∧
      ∀ returning, routine.executed? returning = some .ret →
        routine.stack.depth = caller.stack.depth + 1 →
        (routine.move returning).fault? = none ∧
          (routine.move returning).machine.pc.toNat = (caller.pc.toNat + 2) % 4096 ∧
          (routine.move returning).machine.stack.toList = caller.stack.toList := by
  intro routine
  have entered := toList_stack_of_call calls room
  have length : (caller.stack.toList ++ [following caller.pc]).length =
      caller.stack.depth + 1 := by
    simp
  have kept : caller.stack.toList ++ [following caller.pc] <+: routine.stack.toList := by
    rw [show routine = _ from (moveAll_movesAll _ body).symm]
    apply prefix_stack_moveAll
    · exact entered ▸ List.prefix_refl _
    · rw [length]
      exact deep
  refine ⟨kept, ?_⟩
  intro returning returns level
  have whole : routine.stack.toList = caller.stack.toList ++ [following caller.pc] := by
    apply (List.IsPrefix.eq_of_length kept ?_).symm
    rw [length, CallStack.length_toList, level]
  rcases move_of_ret returns whole with ⟨succeeded, back, uncovered⟩
  exact ⟨succeeded, by rw [back, toNat_following], uncovered⟩

/-- A routine calls another one and is sent around in it, and a program is loaded
meanwhile. -/
theorem ret_restores_caller_of_nested_call :
    let caller := Machine.initial
    let calling : Move := .execute (.call ⟨0x300⟩)
    let body : List Operation :=
      [.execute (.call ⟨0x400⟩), .executeAll [.nop, .jump ⟨0x500⟩, .ret], .load [0x12, 0x00]]
    let returning : Move := .execute .ret
    let routine := (caller.move calling).machine.performAll body
    caller.executed? calling = some (.call ⟨0x300⟩) ∧
      (routine.move returning).fault? = none ∧
      (routine.move returning).machine.pc.toNat = (caller.pc.toNat + 2) % 4096 ∧
      (routine.move returning).machine.stack.toList = caller.stack.toList := by
  intro caller calling body returning routine
  have deep : (caller.move calling).machine.KeepsDepth (caller.stack.depth + 1)
      ((caller.move calling).machine.movesAll body) := by decide
  have calls : caller.executed? calling = some (.call ⟨0x300⟩) := rfl
  have restored := ret_restores_caller calls (by decide) body deep
  exact ⟨calls, restored.2 returning rfl (by decide)⟩

end Machine

end Chip8
