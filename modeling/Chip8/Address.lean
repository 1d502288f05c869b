/-! # Addresses

Memory has 4096 cells, so an address has twelve significant bits. Words that
name a cell are kept in sixteen bits and wrapped around where they are used. -/

namespace Chip8

/-- An address operand, as wide as the instruction that carries it allows. -/
structure Address where
  word : UInt16
deriving DecidableEq

def memorySize : Nat := 0x1000

/-- Programs are placed and started here. -/
def programStart : UInt16 := 0x200

/-- The cell that a word names. -/
def wrap (word : UInt16) : UInt16 := word % 0x1000

/-- Instructions are two bytes wide. -/
def following (pc : UInt16) : UInt16 := wrap (pc + 2)

example : wrap 0xF234 = 0x234 := rfl
example : following 0xFFE = 0 := rfl

@[simp] theorem toNat_wrap (word : UInt16) :
    (wrap word).toNat = word.toNat % 4096 := by
  simp only [wrap, UInt16.toNat_mod, UInt16.reduceToNat]

theorem toNat_wrap_lt (word : UInt16) : (wrap word).toNat < memorySize := by
  rw [toNat_wrap, memorySize]
  omega

@[simp] theorem wrap_wrap (word : UInt16) : wrap (wrap word) = wrap word := by
  apply UInt16.toNat_inj.mp
  simp only [toNat_wrap]
  omega

/-- Sixteen bits lose nothing here, because 4096 divides their range. -/
@[simp] theorem toNat_following (pc : UInt16) :
    (following pc).toNat = (pc.toNat + 2) % 4096 := by
  simp only [following, toNat_wrap, UInt16.toNat_add, UInt16.reduceToNat]
  omega

theorem toNat_following_following (pc : UInt16) :
    (following (following pc)).toNat = (pc.toNat + 4) % 4096 := by
  rw [toNat_following, toNat_following]
  omega

theorem toNat_wrap_add (word : UInt16) (offset : UInt8) :
    (wrap (word + offset.toUInt16)).toNat = (word.toNat + offset.toNat) % 4096 := by
  rw [toNat_wrap, UInt16.toNat_add, UInt8.toNat_toUInt16]
  omega

theorem following_eq_ofNat (pc : UInt16) :
    following pc = .ofNat ((pc.toNat + 2) % 4096) := by
  rw [← toNat_following, UInt16.ofNat_toNat]

end Chip8
