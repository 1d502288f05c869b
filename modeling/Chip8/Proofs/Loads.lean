import Chip8.Proofs.Execution

/-! # Memory is the history of loads

Nothing but a load that succeeds writes into memory, and it writes its program
and no byte more. So every byte of memory comes from the latest program that
reaches so far, and is zero if there is none. -/

namespace Chip8

/-- The byte of a program that belongs at a location, if it has one there. -/
def byteAt? (location : Nat) (program : List UInt8) : Option UInt8 :=
  if programStart.toNat ≤ location then program[location - programStart.toNat]? else none

theorem byteAt?_offset (offset : Nat) (program : List UInt8) :
    byteAt? (0x200 + offset) program = program[offset]? := by
  have start : programStart.toNat = 0x200 := rfl
  rw [byteAt?, start, if_pos (Nat.le_add_right _ _), Nat.add_sub_cancel_left]

theorem byteAt?_reserved {location : Nat} (reserved : location < 0x200)
    (program : List UInt8) : byteAt? location program = none :=
  if_neg (Nat.not_le_of_lt reserved)

theorem byteAt?_behind {location : Nat} {program : List UInt8}
    (behind : 0x200 + program.length ≤ location) : byteAt? location program = none := by
  have start : programStart.toNat = 0x200 := rfl
  have outside : program.length ≤ location - programStart.toNat := by omega
  rw [byteAt?, List.getElem?_eq_none outside, ite_self]

namespace Machine

/-! ## One operation -/

theorem read_load_of_fitting (machine : Machine) {program : List UInt8}
    (fitting : programStart.toNat + program.length ≤ memorySize) (location : Nat) :
    (machine.load program).machine.memory.read location =
      (byteAt? location program).getD (machine.memory.read location) := by
  rw [load_of_fitting machine fitting, byteAt?]
  simp only [Outcome.machine_reporting, Outcome.machine_quiet, Memory.read_write]
  by_cases started : programStart.toNat ≤ location
  · rw [if_pos started]
    split
    · rfl
    · have outside : program.length ≤ location - programStart.toNat := by omega
      rw [List.getElem?_eq_none outside]
      rfl
  · rw [if_neg started, if_neg fun inside => started inside.1]
    rfl

theorem read_load_behind (machine : Machine) {program : List UInt8} {location : Nat}
    (behind : 0x200 + program.length ≤ location) :
    (machine.load program).machine.memory.read location =
      machine.memory.read location := by
  rcases Nat.lt_or_ge memorySize (programStart.toNat + program.length) with excess | fitting
  · rw [load_of_excess machine excess]
    rfl
  · rw [read_load_of_fitting machine fitting, byteAt?_behind behind]
    rfl

/-- The program that an operation puts into memory, if it does. -/
def loaded? (machine : Machine) : Operation → Option (List UInt8)
  | .load program =>
      match (machine.load program).fault? with
      | none => some program
      | some _ => none
  | _ => none

theorem memory_of_unloaded {machine : Machine} {operation : Operation}
    (unloaded : machine.loaded? operation = none) :
    (machine.perform operation).machine.memory = machine.memory := by
  cases operation with
  | load program =>
      rcases Nat.lt_or_ge memorySize (programStart.toNat + program.length) with
        excess | fitting
      · rw [perform, load_of_excess machine excess]
        rfl
      · simp [loaded?, load_of_fitting machine fitting] at unloaded
  | step => exact machine.memory_step
  | execute instruction => exact machine.memory_execute instruction
  | executeAll instructions => exact machine.memory_executeAll instructions

theorem read_of_loaded {machine : Machine} {operation : Operation} {program : List UInt8}
    (loaded : machine.loaded? operation = some program) (location : Nat) :
    (machine.perform operation).machine.memory.read location =
      (byteAt? location program).getD (machine.memory.read location) := by
  cases operation with
  | load given =>
      rcases Nat.lt_or_ge memorySize (programStart.toNat + given.length) with
        excess | fitting
      · simp [loaded?, load_of_excess machine excess] at loaded
      · simp only [loaded?, load_of_fitting machine fitting, Outcome.fault?_reporting,
          Outcome.fault?_quiet, Option.some.injEq] at loaded
        subst loaded
        exact machine.read_load_of_fitting fitting location
  | step => cases loaded
  | execute instruction => cases loaded
  | executeAll instructions => cases loaded

/-! ## Histories -/

/-- The programs that operations in order put into memory, oldest first. -/
def loadedAll (machine : Machine) : List Operation → List (List UInt8)
  | [] => []
  | operation :: rest =>
      (machine.loaded? operation).toList ++
        (machine.perform operation).machine.loadedAll rest

/-- The latest program with a byte at the location is the one that counts. -/
theorem read_performAll (machine : Machine) (operations : List Operation)
    (location : Nat) :
    (machine.performAll operations).memory.read location =
      ((machine.loadedAll operations).reverse.findSome? (byteAt? location)).getD
        (machine.memory.read location) := by
  induction operations generalizing machine with
  | nil => rfl
  | cons operation rest induction =>
      -- Later programs are asked first; only if none of them reaches the location
      -- does it matter what this operation has left there.
      rw [performAll, induction, loadedAll, List.reverse_append, List.findSome?_append,
        Option.getD_or]
      congr 1
      cases loaded : machine.loaded? operation with
      | none =>
          rw [memory_of_unloaded loaded]
          rfl
      | some program =>
          rw [read_of_loaded loaded]
          cases found : byteAt? location program <;> simp [found]

/-- Whatever a machine has been through, each byte of the place for programs is
that of the latest loaded program which is long enough, or zero, and before that
place all is zero. No instruction writes memory, nor does a load that fails, and
a load that succeeds leaves alone what lies behind its program. -/
theorem memory_of_loads (operations : List Operation) :
    let machine := initial.performAll operations
    let programs := initial.loadedAll operations
    (∀ offset < 3584, machine.memory.read (0x200 + offset) =
        (programs.reverse.findSome? fun program => program[offset]?).getD 0) ∧
      (∀ location < 0x200, machine.memory.read location = 0) ∧
      (∀ operation, machine.loaded? operation = none →
        (machine.perform operation).machine.memory = machine.memory) ∧
      ∀ (program : List UInt8) (location : Nat), 0x200 + program.length ≤ location →
        (machine.load program).machine.memory.read location =
          machine.memory.read location := by
  intro machine programs
  have written (location : Nat) : machine.memory.read location =
      (programs.reverse.findSome? (byteAt? location)).getD 0 := by
    rw [show machine = initial.performAll operations from rfl, read_performAll]
    exact congrArg _ (Memory.read_zeroed location)
  refine ⟨?_, ?_, fun operation => memory_of_unloaded,
    fun program location => machine.read_load_behind⟩
  · intro offset _
    rw [written, funext (byteAt?_offset offset)]
  · intro location reserved
    rw [written, List.findSome?_eq_none_iff.mpr fun program _ =>
      byteAt?_reserved reserved program]
    rfl

end Machine

end Chip8
