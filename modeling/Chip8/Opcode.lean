/-! # Opcodes

An opcode is a sixteen-bit word read as four nibbles. The first nibble is its
family; the other three are operands, alone (`x`, `y`, `n`), as a byte (`nn`)
or as an address (`nnn`). -/

namespace Chip8

structure Opcode where
  word : UInt16
deriving DecidableEq

namespace Opcode

/-- In memory the high byte comes first. -/
def ofBytes (high low : UInt8) : Opcode :=
  ⟨high.toUInt16 * 0x100 + low.toUInt16⟩

def high (opcode : Opcode) : UInt8 := (opcode.word / 0x100).toUInt8

def low (opcode : Opcode) : UInt8 := (opcode.word % 0x100).toUInt8

def family (opcode : Opcode) : UInt8 := (opcode.word / 0x1000).toUInt8

def x (opcode : Opcode) : UInt8 := (opcode.word / 0x100 % 0x10).toUInt8

def y (opcode : Opcode) : UInt8 := (opcode.word / 0x10 % 0x10).toUInt8

def n (opcode : Opcode) : UInt8 := (opcode.word % 0x10).toUInt8

def nn (opcode : Opcode) : UInt8 := (opcode.word % 0x100).toUInt8

def nnn (opcode : Opcode) : UInt16 := opcode.word % 0x1000

example : (ofBytes 0x12 0x34).word = 0x1234 := rfl
example : (ofBytes 0xD1 0x25).family = 0xD ∧ (ofBytes 0xD1 0x25).nnn = 0x125 := by decide

/-! The numeric value of each field. -/

@[simp] theorem toNat_word_ofBytes (high low : UInt8) :
    (ofBytes high low).word.toNat = 256 * high.toNat + low.toNat := by
  have highBound := high.toNat_lt
  have lowBound := low.toNat_lt
  simp only [ofBytes, UInt16.toNat_add, UInt16.toNat_mul, UInt8.toNat_toUInt16,
    UInt16.reduceToNat]
  omega

@[simp] theorem toNat_family (opcode : Opcode) :
    opcode.family.toNat = opcode.word.toNat / 4096 := by
  have bound := opcode.word.toNat_lt
  simp only [family, UInt16.toNat_toUInt8, UInt16.toNat_div, UInt16.reduceToNat]
  omega

@[simp] theorem toNat_x (opcode : Opcode) :
    opcode.x.toNat = opcode.word.toNat / 256 % 16 := by
  simp only [x, UInt16.toNat_toUInt8, UInt16.toNat_div, UInt16.toNat_mod,
    UInt16.reduceToNat]
  omega

@[simp] theorem toNat_y (opcode : Opcode) :
    opcode.y.toNat = opcode.word.toNat / 16 % 16 := by
  simp only [y, UInt16.toNat_toUInt8, UInt16.toNat_div, UInt16.toNat_mod,
    UInt16.reduceToNat]
  omega

@[simp] theorem toNat_n (opcode : Opcode) :
    opcode.n.toNat = opcode.word.toNat % 16 := by
  simp only [n, UInt16.toNat_toUInt8, UInt16.toNat_mod, UInt16.reduceToNat]
  omega

@[simp] theorem toNat_nn (opcode : Opcode) :
    opcode.nn.toNat = opcode.word.toNat % 256 := by
  simp only [nn, UInt16.toNat_toUInt8, UInt16.toNat_mod, UInt16.reduceToNat]
  omega

@[simp] theorem toNat_nnn (opcode : Opcode) :
    opcode.nnn.toNat = opcode.word.toNat % 4096 := by
  simp only [nnn, UInt16.toNat_mod, UInt16.reduceToNat]

theorem ofBytes_high_low (opcode : Opcode) :
    ofBytes opcode.high opcode.low = opcode := by
  rcases opcode with ⟨word⟩
  have bound := word.toNat_lt
  simp only [ofBytes, high, low, Opcode.mk.injEq]
  apply UInt16.toNat_inj.mp
  simp only [UInt16.toNat_add, UInt16.toNat_mul, UInt8.toNat_toUInt16,
    UInt16.toNat_toUInt8, UInt16.toNat_div, UInt16.toNat_mod, UInt16.reduceToNat]
  omega

end Opcode

end Chip8
