import Chip8.Proofs.Encoding

/-! # Encoding undoes decoding

The opcode of an instruction can be had back from it, except for the field `Y` of
shifts, which decoding does not look at. -/

namespace Chip8

namespace Opcode

/-- `8XY6` and `8XY8`. -/
def isShift (opcode : Opcode) : Bool :=
  opcode.family == 0x8 && (opcode.n == 0x6 || opcode.n == 0x8)

/-- The same opcode with zero in the field for `Y`. -/
def withoutY (opcode : Opcode) : Opcode :=
  ⟨opcode.word / 0x100 * 0x100 + opcode.word % 0x10⟩

/-- Of all opcodes with one meaning, the one that encoding chooses. -/
def canonical (opcode : Opcode) : Opcode :=
  if opcode.isShift then opcode.withoutY else opcode

example : (Opcode.mk 0x8AB6).canonical = ⟨0x8A06⟩ := by decide
example : (Opcode.mk 0x8AB4).canonical = ⟨0x8AB4⟩ := by decide

/-! ## Opcodes by their fields -/

theorem ext_toNat {left right : Opcode} (same : left.word.toNat = right.word.toNat) :
    left = right := by
  rcases left with ⟨leftWord⟩
  rcases right with ⟨rightWord⟩
  exact congrArg Opcode.mk (UInt16.toNat_inj.mp same)

theorem ext_fields {left right : Opcode} (family : left.family = right.family)
    (x : left.x = right.x) (y : left.y = right.y) (n : left.n = right.n) :
    left = right := by
  apply ext_toNat
  simp only [← UInt8.toNat_inj, toNat_family, toNat_x, toNat_y, toNat_n] at family x y n
  omega

section

variable (opcode : Opcode)

theorem toNat_word_withoutY :
    opcode.withoutY.word.toNat =
      opcode.word.toNat / 256 * 256 + opcode.word.toNat % 16 := by
  have bound := opcode.word.toNat_lt
  simp only [withoutY, UInt16.toNat_add, UInt16.toNat_mul, UInt16.toNat_div,
    UInt16.toNat_mod, UInt16.reduceToNat]
  omega

@[simp] theorem family_withoutY : opcode.withoutY.family = opcode.family := by
  apply UInt8.toNat_inj.mp
  rw [toNat_family, toNat_family, toNat_word_withoutY]
  omega

@[simp] theorem x_withoutY : opcode.withoutY.x = opcode.x := by
  apply UInt8.toNat_inj.mp
  rw [toNat_x, toNat_x, toNat_word_withoutY]
  omega

@[simp] theorem y_withoutY : opcode.withoutY.y = 0 := by
  apply UInt8.toNat_inj.mp
  rw [toNat_y, toNat_word_withoutY, UInt8.toNat_zero]
  omega

@[simp] theorem n_withoutY : opcode.withoutY.n = opcode.n := by
  apply UInt8.toNat_inj.mp
  rw [toNat_n, toNat_n, toNat_word_withoutY]
  omega

/-! Each layout puts the fields back where they were read. -/

theorem ofAddress_family_nnn :
    ofAddress opcode.family.toUInt16 ⟨opcode.nnn⟩ = opcode := by
  have bound := opcode.word.toNat_lt
  apply ext_toNat
  rw [toNat_word_ofAddress, UInt8.toNat_toUInt16, toNat_family, toNat_nnn]
  omega

theorem ofByte_family_x_nn :
    ofByte opcode.family.toUInt16 ⟨opcode.x⟩ opcode.nn = opcode := by
  have bound := opcode.word.toNat_lt
  apply ext_toNat
  rw [toNat_word_ofByte, UInt8.toNat_toUInt16, toNat_family, toNat_x, toNat_nn]
  omega

theorem ofNibbles_family_x_y_n :
    ofNibbles opcode.family.toUInt16 ⟨opcode.x⟩ ⟨opcode.y⟩ opcode.n = opcode := by
  have bound := opcode.word.toNat_lt
  apply ext_toNat
  rw [toNat_word_ofNibbles, UInt8.toNat_toUInt16, toNat_family, toNat_x, toNat_y, toNat_n]
  omega

theorem ofNibbles_family_x_n :
    ofNibbles opcode.family.toUInt16 ⟨opcode.x⟩ ⟨0⟩ opcode.n = opcode.withoutY := by
  have whole := opcode.withoutY.ofNibbles_family_x_y_n
  rwa [family_withoutY, x_withoutY, y_withoutY, n_withoutY] at whole

end

variable {opcode left right : Opcode}

theorem withoutY_eq_iff :
    left.withoutY = right.withoutY ↔
      left.family = right.family ∧ left.x = right.x ∧ left.n = right.n := by
  constructor
  · intro same
    refine ⟨?_, ?_, ?_⟩
    · rw [← left.family_withoutY, same, family_withoutY]
    · rw [← left.x_withoutY, same, x_withoutY]
    · rw [← left.n_withoutY, same, n_withoutY]
  · rintro ⟨family, x, n⟩
    exact ext_fields (by simp [family]) (by simp [x]) (by simp) (by simp [n])

theorem family_of_isShift (shift : opcode.isShift = true) : opcode.family = 0x8 :=
  beq_iff_eq.mp (Bool.and_eq_true_iff.mp shift).1

theorem canonical_of_isShift (shift : opcode.isShift = true) :
    opcode.canonical = opcode.withoutY :=
  if_pos shift

theorem canonical_of_family_ne (other : opcode.family ≠ 0x8) :
    opcode.canonical = opcode := by
  simp [canonical, isShift, other]

theorem canonical_of_n_ne (first : opcode.n ≠ 0x6) (second : opcode.n ≠ 0x8) :
    opcode.canonical = opcode := by
  simp [canonical, isShift, first, second]

theorem isShift_withoutY : opcode.withoutY.isShift = opcode.isShift := by
  simp [isShift]

theorem isShift_canonical : opcode.canonical.isShift = opcode.isShift := by
  rw [canonical]
  split
  · exact isShift_withoutY
  · rfl

theorem not_isShift_of_isUnassigned (unassigned : opcode.isUnassigned = true) :
    opcode.isShift = false := by
  apply Bool.eq_false_iff.mpr
  intro shift
  simp only [isShift, Bool.and_eq_true, Bool.or_eq_true, beq_iff_eq] at shift
  rcases shift with ⟨family, n | n⟩
  · simp [isUnassigned, family, n] at unassigned
  · simp [isUnassigned, family, n] at unassigned

/-- Two opcodes have one canonical opcode if they are the same shift of the same
register. -/
theorem canonical_eq_iff (different : left ≠ right) :
    left.canonical = right.canonical ↔
      left.isShift = true ∧ right.isShift = true ∧ left.x = right.x ∧ left.n = right.n := by
  constructor
  · intro same
    have kinds : left.isShift = right.isShift := by
      rw [← isShift_canonical, same, isShift_canonical]
    cases shift : right.isShift with
    | false => simp [canonical, kinds, shift, different] at same
    | true =>
        rw [shift] at kinds
        rw [canonical_of_isShift kinds, canonical_of_isShift shift] at same
        exact ⟨kinds, rfl, (withoutY_eq_iff.mp same).2⟩
  · rintro ⟨leftShift, rightShift, operands⟩
    have families : left.family = right.family :=
      (family_of_isShift leftShift).trans (family_of_isShift rightShift).symm
    rw [canonical_of_isShift leftShift, canonical_of_isShift rightShift]
    exact withoutY_eq_iff.mpr ⟨families, operands⟩

end Opcode

namespace Instruction

open Opcode

theorem encode_decodeSystem (address : UInt16) :
    (decodeSystem address).encode = .ofAddress 0x0 ⟨address⟩ := by
  unfold decodeSystem
  split <;> rfl

variable {opcode : Opcode}

theorem encode_decodeRegisters (registers : opcode.family = 0x8) :
    (decodeRegisters opcode).encode = opcode.canonical := by
  have whole := opcode.ofNibbles_family_x_y_n
  have blank := opcode.ofNibbles_family_x_n
  rw [registers] at whole blank
  unfold decodeRegisters
  split
  case h_7 n | h_9 n =>
    rw [canonical_of_isShift (by simp [isShift, registers, n])]
    rw [n] at blank
    exact blank
  case h_10 =>
    rw [canonical_of_n_ne (by assumption) (by assumption)]
    rfl
  case h_1 n | h_2 n | h_3 n | h_4 n | h_5 n | h_6 n | h_8 n =>
    rw [canonical_of_n_ne (by simp [n]) (by simp [n])]
    rw [n] at whole
    exact whole

theorem encode_decodeKeyboard (keyboard : opcode.family = 0xE) :
    (decodeKeyboard opcode).encode = opcode := by
  have whole := opcode.ofByte_family_x_nn
  rw [keyboard] at whole
  unfold decodeKeyboard
  split
  case h_3 => rfl
  case h_1 nn | h_2 nn =>
    rw [nn] at whole
    exact whole

theorem encode_decodeDevice (device : opcode.family = 0xF) :
    (decodeDevice opcode).encode = opcode := by
  have whole := opcode.ofByte_family_x_nn
  rw [device] at whole
  unfold decodeDevice
  split
  case h_10 => rfl
  case h_1 nn | h_2 nn | h_3 nn | h_4 nn | h_5 nn | h_6 nn | h_7 nn | h_8 nn | h_9 nn =>
    rw [nn] at whole
    exact whole

/-- Encoding gives back the opcode, but for the field that shifts leave open. -/
theorem encode_decode (opcode : Opcode) : (decode opcode).encode = opcode.canonical := by
  have address := opcode.ofAddress_family_nnn
  have byte := opcode.ofByte_family_x_nn
  have nibbles := opcode.ofNibbles_family_x_y_n
  unfold decode
  split
  case h_9 family => exact encode_decodeRegisters family
  -- All other families decode without a loss, so their opcodes are canonical.
  all_goals rw [canonical_of_family_ne (by simp_all)]
  case h_1 family =>
    rw [family] at address
    rw [encode_decodeSystem]
    exact address
  case h_2 family | h_3 family | h_11 family | h_12 family =>
    rw [family] at address
    exact address
  case h_4 family | h_5 family | h_7 family | h_8 family | h_13 family =>
    rw [family] at byte
    exact byte
  case h_6 family | h_10 family =>
    rw [family] at nibbles
    dsimp only
    split
    case isTrue n =>
      rw [n] at nibbles
      exact nibbles
    case isFalse => rfl
  case h_14 family =>
    rw [family] at nibbles
    exact nibbles
  case h_15 family => exact encode_decodeKeyboard family
  case h_16 =>
    have bound := opcode.family_lt
    have device : opcode.family = 0xF := by
      simp only [UInt8.lt_iff_toNat_lt, ← UInt8.toNat_inj, UInt8.reduceToNat,
        imp_false] at *
      omega
    exact encode_decodeDevice device

/-- Decoding does not see the difference. -/
theorem decode_canonical (opcode : Opcode) : decode opcode.canonical = decode opcode := by
  rw [← encode_decode]
  exact decode_encode (isEncodable_decode opcode)

theorem decode_eq_iff_canonical_eq {left right : Opcode} :
    decode left = decode right ↔ left.canonical = right.canonical := by
  constructor
  · intro same
    rw [← encode_decode, same, encode_decode]
  · intro same
    rw [← decode_canonical, same, decode_canonical]

theorem decode_eq_unknown_iff {opcode other : Opcode} :
    decode opcode = .unknown other ↔ opcode.isUnassigned = true ∧ other = opcode := by
  constructor
  · intro decoded
    have unassigned : other.isUnassigned = true := by
      have encodable := isEncodable_decode opcode
      rwa [decoded] at encodable
    have chosen : other = opcode.canonical := by
      rw [← encode_decode, decoded]
      rfl
    have plain : opcode.isShift = false := by
      rw [← isShift_canonical, ← chosen]
      exact not_isShift_of_isUnassigned unassigned
    have same : other = opcode := by
      rw [chosen, canonical, plain]
      rfl
    exact ⟨same ▸ unassigned, same⟩
  · rintro ⟨unassigned, rfl⟩
    exact decode_of_isUnassigned unassigned

/-- Instructions whose operands fit and opcodes stand for each other. Only a shift
has several opcodes, because it does not name the register `Y`, and only opcodes
outside the table have no meaning. The bytes of an opcode stand for what its word
stands for. -/
theorem opcodes_and_instructions_correspond :
    (∀ instruction : Instruction, instruction.isEncodable = true →
      decode instruction.encode = instruction) ∧
    (∀ opcode : Opcode, (decode opcode).isEncodable = true ∧
      (decode opcode).encode = if opcode.isShift then opcode.withoutY else opcode) ∧
    (∀ left right : Opcode, left ≠ right →
      (decode left = decode right ↔
        left.isShift = true ∧ right.isShift = true ∧ left.x = right.x ∧ left.n = right.n)) ∧
    (∀ opcode other : Opcode, decode opcode = .unknown other ↔
      opcode.isUnassigned = true ∧ other = opcode) ∧
    (∀ high low : UInt8,
      decode (.ofBytes high low) = decode ⟨.ofNat (256 * high.toNat + low.toNat)⟩) := by
  refine ⟨fun _ encodable => decode_encode encodable,
    fun opcode => ⟨isEncodable_decode opcode, encode_decode opcode⟩,
    fun left right different => ?_, fun _ _ => decode_eq_unknown_iff, fun high low => ?_⟩
  · exact decode_eq_iff_canonical_eq.trans (canonical_eq_iff different)
  · have word : ofBytes high low = ⟨.ofNat (256 * high.toNat + low.toNat)⟩ := by
      rw [← toNat_word_ofBytes, UInt16.ofNat_toNat]
    rw [word]

/-- A shift and two of its sixteen opcodes. -/
theorem opcodes_and_instructions_correspond_at_shifts :
    let shift : Instruction := .compute ⟨0xA⟩ .shiftRight
    shift.isEncodable = true ∧ decode shift.encode = shift ∧
      Opcode.mk 0x8AB6 ≠ ⟨0x8AC6⟩ ∧ decode ⟨0x8AB6⟩ = decode ⟨0x8AC6⟩ := by
  have encodable : (Instruction.compute ⟨0xA⟩ .shiftRight).isEncodable = true := by decide
  have different : Opcode.mk 0x8AB6 ≠ ⟨0x8AC6⟩ := by decide
  rcases opcodes_and_instructions_correspond with ⟨decodes, _, alike, _, _⟩
  exact ⟨encodable, decodes _ encodable, different,
    (alike _ _ different).mpr (by decide)⟩

end Instruction

end Chip8
