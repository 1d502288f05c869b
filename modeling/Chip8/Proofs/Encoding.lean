import Chip8.Instruction.Decode
import Chip8.Instruction.Encode

/-! # Decoding undoes encoding

An instruction whose operands fit into the fields of an opcode is what its
opcode stands for. -/

namespace Chip8

/-! ## Operands that fit -/

def Address.fits (target : Address) : Bool := target.word < 0x1000

def Register.fits (register : Register) : Bool := register.number < 0x10

/-- No instruction has this opcode. Families 5 and 9 are assigned only with a
last nibble of zero, family 8 up to `8XY8`, and families E and F at single
places. -/
def Opcode.isUnassigned (opcode : Opcode) : Bool :=
  match opcode.family with
  | 0x5 => opcode.n != 0x0
  | 0x8 => 0x8 < opcode.n
  | 0x9 => opcode.n != 0x0
  | 0xE => opcode.nn ∉ [0x9E, 0xA1]
  | 0xF => opcode.nn ∉ [0x07, 0x0A, 0x15, 0x18, 0x1E, 0x29, 0x33, 0x55, 0x65]
  | _ => false

def Condition.isEncodable : Condition → Bool
  | .equalsConstant x _ => x.fits
  | .differsFromConstant x _ => x.fits
  | .equalsRegister x y => x.fits && y.fits
  | .differsFromRegister x y => x.fits && y.fits

def Source.isEncodable : Source → Bool
  | .constant _ => true
  | .add _ => true
  | .copy y => y.fits
  | .or y => y.fits
  | .and y => y.fits
  | .xor y => y.fits

def Arithmetic.isEncodable : Arithmetic → Bool
  | .add y => y.fits
  | .subtract y => y.fits
  | .subtractFrom y => y.fits
  | .shiftRight => true
  | .shiftLeft => true

/-- Three opcodes of family 0 are not machine code routines. -/
def Request.isEncodable : Request → Bool
  | .machineRoutine target => target.fits && target.word ∉ [0x000, 0x0E0, 0x0EE]
  | .random x _ => x.fits
  | .skipIfKeyDown x => x.fits
  | .skipIfKeyUp x => x.fits
  | .readDelayTimer x => x.fits
  | .awaitKey x => x.fits
  | .setDelayTimer x => x.fits
  | .setSoundTimer x => x.fits
  | .addToIndex x => x.fits
  | .pointToGlyph x => x.fits
  | .storeDecimal x => x.fits
  | .saveRegisters x => x.fits
  | .loadRegisters x => x.fits

/-- The operands fit into their fields, and the opcode belongs to no other
instruction. -/
def Instruction.isEncodable : Instruction → Bool
  | .nop => true
  | .clearScreen => true
  | .ret => true
  | .jump target => target.fits
  | .call target => target.fits
  | .jumpOffset target => target.fits
  | .skipIf condition => condition.isEncodable
  | .assign x source => x.fits && source.isEncodable
  | .compute x operation => x.fits && operation.isEncodable
  | .setIndex target => target.fits
  | .draw x y rows => x.fits && y.fits && rows < 0x10
  | .delegate request => request.isEncodable
  | .unknown opcode => opcode.isUnassigned

theorem Address.fits_iff {target : Address} :
    target.fits = true ↔ target.word.toNat < 0x1000 := by
  simp [fits, UInt16.lt_iff_toNat_lt]

theorem Address.wrap_of_fits {target : Address} (fits : target.fits = true) :
    wrap target.word = target.word := by
  apply UInt16.toNat_inj.mp
  rw [toNat_wrap]
  exact Nat.mod_eq_of_lt (fits_iff.mp fits)

theorem Register.fits_iff {register : Register} :
    register.fits = true ↔ register.number.toNat < 0x10 := by
  simp [fits, UInt8.lt_iff_toNat_lt]

namespace Opcode

/-! ## Fields of the three layouts -/

theorem toNat_word_ofAddress (family : UInt16) (target : Address) :
    (ofAddress family target).word.toNat =
      4096 * (family.toNat % 16) + target.word.toNat % 4096 := by
  simp only [ofAddress, UInt16.toNat_add, UInt16.toNat_mul, UInt16.toNat_mod,
    UInt16.reduceToNat]
  omega

theorem toNat_word_ofByte (family : UInt16) (x : Register) (nn : UInt8) :
    (ofByte family x nn).word.toNat =
      4096 * (family.toNat % 16) + 256 * (x.number.toNat % 16) + nn.toNat := by
  have bound := nn.toNat_lt
  simp only [ofByte, UInt16.toNat_add, UInt16.toNat_mul, UInt16.toNat_mod,
    UInt8.toNat_toUInt16, UInt16.reduceToNat]
  omega

theorem toNat_word_ofNibbles (family : UInt16) (x y : Register) (n : UInt8) :
    (ofNibbles family x y n).word.toNat =
      4096 * (family.toNat % 16) + 256 * (x.number.toNat % 16) +
        16 * (y.number.toNat % 16) + n.toNat % 16 := by
  simp only [ofNibbles, UInt16.toNat_add, UInt16.toNat_mul, UInt16.toNat_mod,
    UInt8.toNat_toUInt16, UInt16.reduceToNat]
  omega

variable (family : UInt16) {target : Address} {x y : Register} {nn n : UInt8}

theorem family_ofAddress : (ofAddress family target).family = (family % 16).toUInt8 := by
  apply UInt8.toNat_inj.mp
  simp only [toNat_family, toNat_word_ofAddress, UInt16.toNat_toUInt8, UInt16.toNat_mod,
    UInt16.reduceToNat]
  omega

theorem nnn_ofAddress (fits : target.fits = true) :
    (ofAddress family target).nnn = target.word := by
  have bound := Address.fits_iff.mp fits
  apply UInt16.toNat_inj.mp
  rw [toNat_nnn, toNat_word_ofAddress]
  omega

theorem family_ofByte : (ofByte family x nn).family = (family % 16).toUInt8 := by
  have bound := nn.toNat_lt
  apply UInt8.toNat_inj.mp
  simp only [toNat_family, toNat_word_ofByte, UInt16.toNat_toUInt8, UInt16.toNat_mod,
    UInt16.reduceToNat]
  omega

theorem x_ofByte (fits : x.fits = true) : (ofByte family x nn).x = x.number := by
  have bound := Register.fits_iff.mp fits
  have byteBound := nn.toNat_lt
  apply UInt8.toNat_inj.mp
  rw [toNat_x, toNat_word_ofByte]
  omega

theorem nn_ofByte : (ofByte family x nn).nn = nn := by
  have bound := nn.toNat_lt
  apply UInt8.toNat_inj.mp
  rw [toNat_nn, toNat_word_ofByte]
  omega

theorem family_ofNibbles : (ofNibbles family x y n).family = (family % 16).toUInt8 := by
  apply UInt8.toNat_inj.mp
  simp only [toNat_family, toNat_word_ofNibbles, UInt16.toNat_toUInt8, UInt16.toNat_mod,
    UInt16.reduceToNat]
  omega

theorem x_ofNibbles (fits : x.fits = true) : (ofNibbles family x y n).x = x.number := by
  have bound := Register.fits_iff.mp fits
  apply UInt8.toNat_inj.mp
  rw [toNat_x, toNat_word_ofNibbles]
  omega

theorem y_ofNibbles (fits : y.fits = true) : (ofNibbles family x y n).y = y.number := by
  have bound := Register.fits_iff.mp fits
  apply UInt8.toNat_inj.mp
  rw [toNat_y, toNat_word_ofNibbles]
  omega

theorem n_ofNibbles (small : n < 0x10) : (ofNibbles family x y n).n = n := by
  have bound := UInt8.lt_iff_toNat_lt.mp small
  simp only [UInt8.reduceToNat] at bound
  apply UInt8.toNat_inj.mp
  rw [toNat_n, toNat_word_ofNibbles]
  omega

end Opcode

/-! ## Round trips -/

namespace Instruction

open Opcode

theorem decode_encode_condition {condition : Condition}
    (encodable : condition.isEncodable = true) :
    decode condition.encode = .skipIf condition := by
  cases condition with
  | equalsConstant x value =>
      simp [Condition.encode, decode, family_ofByte, x_ofByte _ encodable, nn_ofByte]
  | differsFromConstant x value =>
      simp [Condition.encode, decode, family_ofByte, x_ofByte _ encodable, nn_ofByte]
  | equalsRegister x y =>
      rcases Bool.and_eq_true_iff.mp encodable with ⟨first, second⟩
      simp [Condition.encode, decode, family_ofNibbles, x_ofNibbles _ first,
        y_ofNibbles _ second, n_ofNibbles]
  | differsFromRegister x y =>
      rcases Bool.and_eq_true_iff.mp encodable with ⟨first, second⟩
      simp [Condition.encode, decode, family_ofNibbles, x_ofNibbles _ first,
        y_ofNibbles _ second, n_ofNibbles]

theorem decode_encode_source {x : Register} (fits : x.fits = true) {source : Source}
    (encodable : source.isEncodable = true) :
    decode (source.encode x) = .assign x source := by
  cases source with
  | constant value =>
      simp [Source.encode, decode, family_ofByte, x_ofByte _ fits, nn_ofByte]
  | add value =>
      simp [Source.encode, decode, family_ofByte, x_ofByte _ fits, nn_ofByte]
  | _ y =>
      simp [Source.encode, decode, decodeRegisters, family_ofNibbles, x_ofNibbles _ fits,
        y_ofNibbles _ encodable, n_ofNibbles]

theorem decode_encode_arithmetic {x : Register} (fits : x.fits = true)
    {operation : Arithmetic} (encodable : operation.isEncodable = true) :
    decode (operation.encode x) = .compute x operation := by
  cases operation with
  | shiftRight =>
      simp [Arithmetic.encode, decode, decodeRegisters, family_ofNibbles,
        x_ofNibbles _ fits, n_ofNibbles]
  | shiftLeft =>
      simp [Arithmetic.encode, decode, decodeRegisters, family_ofNibbles,
        x_ofNibbles _ fits, n_ofNibbles]
  | _ y =>
      simp [Arithmetic.encode, decode, decodeRegisters, family_ofNibbles,
        x_ofNibbles _ fits, y_ofNibbles _ encodable, n_ofNibbles]

theorem decode_encode_request {request : Request}
    (encodable : request.isEncodable = true) :
    decode request.encode = .delegate request := by
  cases request with
  | machineRoutine target =>
      rcases Bool.and_eq_true_iff.mp encodable with ⟨fits, other⟩
      have different : target.word ≠ 0x000 ∧ target.word ≠ 0x0E0 ∧ target.word ≠ 0x0EE := by
        simpa using other
      simp [Request.encode, decode, decodeSystem, family_ofAddress, nnn_ofAddress _ fits,
        different]
  | random x mask =>
      simp [Request.encode, decode, family_ofByte, x_ofByte _ encodable, nn_ofByte]
  | skipIfKeyDown x =>
      simp [Request.encode, decode, decodeKeyboard, family_ofByte, x_ofByte _ encodable,
        nn_ofByte]
  | skipIfKeyUp x =>
      simp [Request.encode, decode, decodeKeyboard, family_ofByte, x_ofByte _ encodable,
        nn_ofByte]
  | _ x =>
      simp [Request.encode, decode, decodeDevice, family_ofByte, x_ofByte _ encodable,
        nn_ofByte]

theorem decode_of_isUnassigned {opcode : Opcode} (unassigned : opcode.isUnassigned = true) :
    decode opcode = .unknown opcode := by
  unfold Opcode.isUnassigned at unassigned
  split at unassigned
  case h_1 family => simp_all [decode]
  case h_2 family =>
    simp only [decode, family]
    unfold decodeRegisters
    split <;> simp_all
  case h_3 family => simp_all [decode]
  case h_4 family => simp_all [decode, decodeKeyboard]
  case h_5 family => simp_all [decode, decodeDevice]
  case h_6 => cases unassigned

theorem decode_encode {instruction : Instruction}
    (encodable : instruction.isEncodable = true) :
    decode instruction.encode = instruction := by
  cases instruction with
  | nop => rfl
  | clearScreen => rfl
  | ret => rfl
  | jump target => simp [encode, decode, family_ofAddress, nnn_ofAddress _ encodable]
  | call target => simp [encode, decode, family_ofAddress, nnn_ofAddress _ encodable]
  | jumpOffset target => simp [encode, decode, family_ofAddress, nnn_ofAddress _ encodable]
  | setIndex target => simp [encode, decode, family_ofAddress, nnn_ofAddress _ encodable]
  | skipIf condition => exact decode_encode_condition encodable
  | assign x source =>
      rcases Bool.and_eq_true_iff.mp encodable with ⟨fits, encodableSource⟩
      exact decode_encode_source fits encodableSource
  | compute x operation =>
      rcases Bool.and_eq_true_iff.mp encodable with ⟨fits, encodableOperation⟩
      exact decode_encode_arithmetic fits encodableOperation
  | draw x y rows =>
      simp only [isEncodable, Bool.and_eq_true, decide_eq_true_eq] at encodable
      rcases encodable with ⟨⟨first, second⟩, few⟩
      simp [encode, decode, family_ofNibbles, x_ofNibbles _ first, y_ofNibbles _ second,
        n_ofNibbles _ few]
  | delegate request => exact decode_encode_request encodable
  | unknown opcode => exact decode_of_isUnassigned encodable

end Instruction

/-! ## Decoded instructions -/

namespace Opcode

theorem fits_x (opcode : Opcode) : (Register.mk opcode.x).fits = true := by
  rw [Register.fits_iff, toNat_x]
  exact Nat.mod_lt _ (by decide)

theorem fits_y (opcode : Opcode) : (Register.mk opcode.y).fits = true := by
  rw [Register.fits_iff, toNat_y]
  exact Nat.mod_lt _ (by decide)

theorem fits_nnn (opcode : Opcode) : (Address.mk opcode.nnn).fits = true := by
  rw [Address.fits_iff, toNat_nnn]
  exact Nat.mod_lt _ (by decide)

theorem n_lt (opcode : Opcode) : opcode.n < 0x10 := by
  rw [UInt8.lt_iff_toNat_lt, toNat_n]
  exact Nat.mod_lt _ (by decide)

theorem family_lt (opcode : Opcode) : opcode.family < 0x10 := by
  have bound := opcode.word.toNat_lt
  rw [UInt8.lt_iff_toNat_lt, toNat_family]
  exact Nat.div_lt_of_lt_mul bound

end Opcode

namespace Instruction

variable {opcode : Opcode}

theorem isEncodable_decodeSystem {address : UInt16}
    (fits : (Address.mk address).fits = true) :
    (decodeSystem address).isEncodable = true := by
  unfold decodeSystem
  split
  case h_4 => simp_all [isEncodable, Request.isEncodable]
  all_goals rfl

theorem isEncodable_decodeRegisters (registers : opcode.family = 0x8) :
    (decodeRegisters opcode).isEncodable = true := by
  have fits := opcode.fits_x
  have otherFits := opcode.fits_y
  unfold decodeRegisters
  split
  case h_10 =>
    have beyond : 8 < opcode.n := by
      simp only [UInt8.lt_iff_toNat_lt, ← UInt8.toNat_inj, UInt8.reduceToNat, imp_false] at *
      omega
    simp [isEncodable, Opcode.isUnassigned, registers, beyond]
  all_goals simp [isEncodable, Source.isEncodable, Arithmetic.isEncodable, fits, otherFits]

theorem isEncodable_decodeKeyboard (keyboard : opcode.family = 0xE) :
    (decodeKeyboard opcode).isEncodable = true := by
  have fits := opcode.fits_x
  unfold decodeKeyboard
  split
  case h_3 => simp_all [isEncodable, Opcode.isUnassigned]
  all_goals exact fits

theorem isEncodable_decodeDevice (device : opcode.family = 0xF) :
    (decodeDevice opcode).isEncodable = true := by
  have fits := opcode.fits_x
  unfold decodeDevice
  split
  case h_10 => simp_all [isEncodable, Opcode.isUnassigned]
  all_goals exact fits

/-- Every opcode decodes to an instruction whose operands fit, and to one without
meaning only where no other has this opcode. -/
theorem isEncodable_decode (opcode : Opcode) : (decode opcode).isEncodable = true := by
  have x := opcode.fits_x
  have y := opcode.fits_y
  have nnn := opcode.fits_nnn
  have n := opcode.n_lt
  unfold decode
  split
  case h_1 => exact isEncodable_decodeSystem nnn
  -- Families 5 and 9 look at one more nibble; 8, E and F have decoders of their own.
  case h_6 family | h_10 family =>
    dsimp only
    split <;> simp_all [isEncodable, Condition.isEncodable, Opcode.isUnassigned]
  case h_9 family => exact isEncodable_decodeRegisters family
  case h_15 family => exact isEncodable_decodeKeyboard family
  case h_16 =>
    have bound := opcode.family_lt
    have device : opcode.family = 0xF := by
      simp only [UInt8.lt_iff_toNat_lt, ← UInt8.toNat_inj, UInt8.reduceToNat,
        imp_false] at *
      omega
    exact isEncodable_decodeDevice device
  all_goals
    simp [isEncodable, Condition.isEncodable, Source.isEncodable, Request.isEncodable, x, y,
      nnn, n]

end Instruction

end Chip8
