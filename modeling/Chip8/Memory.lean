import Chip8.Address
import Chip8.Opcode

/-! # Memory

A fixed array of byte cells. Programs are written into it; instructions read
opcodes and sprites from it and never write. -/

namespace Chip8

structure Memory where
  cells : Vector UInt8 memorySize
deriving DecidableEq

namespace Memory

def zeroed : Memory := ⟨Vector.replicate memorySize 0⟩

/-- The byte at a location. Locations past the end read as zero. -/
def read (memory : Memory) (location : Nat) : UInt8 :=
  memory.cells[location]?.getD 0

/-- The opcode whose two bytes lie at a location and the one after it, if both
are inside memory. -/
def opcode? (memory : Memory) (location : Nat) : Option Opcode :=
  if inside : location + 1 < memorySize then
    some (.ofBytes memory.cells[location] memory.cells[location + 1])
  else
    none

/-- The bytes from `start` up to but not including `stop`. -/
def window (memory : Memory) (start stop : Nat) : List UInt8 :=
  (memory.cells.toArray.extract start stop).toList

/-- Writes bytes one after the other. Bytes past the end are dropped. -/
def write (memory : Memory) (start : Nat) : List UInt8 → Memory
  | [] => memory
  | byte :: rest =>
      (Memory.mk (memory.cells.setIfInBounds start byte)).write (start + 1) rest

/-! Reading is the view of memory: each operation is described by what is read
afterwards. -/

theorem ext_read {left right : Memory}
    (same : ∀ location, left.read location = right.read location) :
    left = right := by
  rcases left with ⟨leftCells⟩
  rcases right with ⟨rightCells⟩
  congr 1
  apply Vector.ext
  intro location inside
  have equal := same location
  simpa [read, inside] using equal

@[simp] theorem read_zeroed (location : Nat) : zeroed.read location = 0 := by
  by_cases inside : location < memorySize
  · simp [read, zeroed, inside]
  · simp [read, zeroed, inside]

theorem opcode?_eq_some {memory : Memory} {location : Nat}
    (inside : location + 1 < memorySize) :
    memory.opcode? location =
      some (.ofBytes (memory.read location) (memory.read (location + 1))) := by
  have here : location < memorySize := by omega
  simp [opcode?, read, inside, here]

theorem opcode?_eq_none_iff {memory : Memory} {location : Nat} :
    memory.opcode? location = none ↔ memorySize ≤ location + 1 := by
  simp [opcode?]

theorem window_eq_map_read (memory : Memory) (start : Nat) {stop : Nat}
    (inside : stop ≤ memorySize) :
    memory.window start stop =
      (List.range' start (stop - start)).map memory.read := by
  apply List.ext_getElem
  · simp only [window, Array.length_toList, Array.size_extract, Vector.size_toArray,
      List.length_map, List.length_range']
    omega
  · intro position _ withinRange
    have before : start + position < memorySize := by
      simp only [List.length_map, List.length_range'] at withinRange
      omega
    simp [window, read, before]

theorem read_write (memory : Memory) (start : Nat) (bytes : List UInt8)
    (location : Nat) :
    (memory.write start bytes).read location =
      if start ≤ location ∧ location < memorySize then
        bytes[location - start]?.getD (memory.read location)
      else
        memory.read location := by
  induction bytes generalizing memory start with
  | nil => simp [write]
  | cons byte rest inductionHypothesis =>
      rw [write, inductionHypothesis]
      by_cases inside : location < memorySize
      · rcases Nat.lt_trichotomy location start with before | same | after
        · have notAfter : ¬ start ≤ location := by omega
          have notLater : ¬ start + 1 ≤ location := by omega
          have different : start ≠ location := by omega
          simp [notAfter, notLater, read, different]
        · subst same
          have notLater : ¬ location + 1 ≤ location := by omega
          simp [inside, notLater, read]
        · have offset : location - start = (location - (start + 1)) + 1 := by omega
          have different : start ≠ location := by omega
          have later : start + 1 ≤ location := by omega
          have started : start ≤ location := by omega
          simp [inside, later, started, offset, read, different]
      · simp [inside, read]

end Memory

end Chip8
