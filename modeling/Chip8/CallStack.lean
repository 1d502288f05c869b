/-! # The call stack

Return addresses are kept in sixteen slots, of which the first `depth` are
occupied. Leaving a routine lowers the depth and lets the slot keep its old
word, so two stacks may differ in slots that nobody can see; `toList` is what
can be seen. -/

namespace Chip8

structure CallStack where
  slots : Vector UInt16 16
  depth : Nat
  depth_le : depth ≤ 16
deriving DecidableEq

namespace CallStack

def empty : CallStack := ⟨Vector.replicate 16 0, 0, by omega⟩

/-- The occupied slots, oldest first. -/
def toList (stack : CallStack) : List UInt16 :=
  stack.slots.toList.take stack.depth

/-- The position of the top slot. -/
def pointer? (stack : CallStack) : Option Nat :=
  match stack.depth with
  | 0 => none
  | below + 1 => some below

/-- One more return address, if a slot is free. -/
def push? (stack : CallStack) (address : UInt16) : Option CallStack :=
  if free : stack.depth < 16 then
    some ⟨stack.slots.set stack.depth address, stack.depth + 1, free⟩
  else
    none

/-- The latest return address and the stack below it. -/
def pop? (stack : CallStack) : Option (UInt16 × CallStack) :=
  if occupied : 0 < stack.depth then
    have inside : stack.depth - 1 < 16 := by have := stack.depth_le; omega
    some (stack.slots[stack.depth - 1],
      ⟨stack.slots, stack.depth - 1, Nat.le_of_lt inside⟩)
  else
    none

/-! What each operation does to the occupied slots. -/

@[simp] theorem toList_empty : empty.toList = [] := rfl

@[simp] theorem length_toList (stack : CallStack) :
    stack.toList.length = stack.depth := by
  simp [toList, stack.depth_le]

theorem depth_of_toList_append {stack below : CallStack} {address : UInt16}
    (shape : stack.toList = below.toList ++ [address]) :
    stack.depth = below.depth + 1 := by
  have lengths := congrArg List.length shape
  rw [List.length_append, List.length_singleton, length_toList, length_toList] at lengths
  exact lengths

theorem push?_eq_none_iff {stack : CallStack} {address : UInt16} :
    stack.push? address = none ↔ stack.depth = 16 := by
  have bound := stack.depth_le
  simp only [push?, dite_eq_right_iff, reduceCtorEq, imp_false]
  omega

theorem toList_of_push? {stack pushed : CallStack} {address : UInt16}
    (result : stack.push? address = some pushed) :
    pushed.toList = stack.toList ++ [address] := by
  simp only [push?, Option.dite_none_right_eq_some, Option.some.injEq] at result
  rcases result with ⟨free, rfl⟩
  simp only [toList, Vector.toList_set]
  rw [List.take_add_one, List.take_set_of_le (Nat.le_refl _)]
  simp [free]

theorem pop?_eq_none_iff {stack : CallStack} :
    stack.pop? = none ↔ stack.depth = 0 := by
  simp only [pop?, dite_eq_right_iff, reduceCtorEq, imp_false]
  omega

theorem toList_of_pop? {stack popped : CallStack} {address : UInt16}
    (result : stack.pop? = some (address, popped)) :
    stack.toList = popped.toList ++ [address] := by
  simp only [pop?, Option.dite_none_right_eq_some, Option.some.injEq,
    Prod.mk.injEq] at result
  rcases result with ⟨occupied, rfl, rfl⟩
  have bound := stack.depth_le
  have depthEq : stack.depth = (stack.depth - 1) + 1 := by omega
  have inside : stack.depth - 1 < 16 := by omega
  simp only [toList]
  conv => lhs; rw [depthEq, List.take_add_one]
  simp [inside]

end CallStack

end Chip8
