import Chip8.Machine.Dump
import Chip8.Proofs.Bounds
import Chip8.Proofs.Readers

/-! # Reading the register dump

A reader takes a dump apart into what it shows. It accepts addresses of three
digits only, and the bounds on the words of a machine see to it that a dump has
no others. -/

namespace Chip8

namespace Text

/-! ## Lines -/

/-- No line ends within this text. -/
def IsLine (text : String) : Prop := '\n' ∉ text.toList

instance (text : String) : Decidable (IsLine text) :=
  inferInstanceAs (Decidable ('\n' ∉ text.toList))

theorem isLine_append {front back : String} :
    IsLine (front ++ back) ↔ IsLine front ∧ IsLine back := by
  rw [IsLine, String.toList_append, List.mem_append, not_or]
  rfl

theorem isLine_join {texts : List String} :
    IsLine (String.join texts) ↔ ∀ text ∈ texts, IsLine text := by
  simp only [IsLine, String.toList_join, List.mem_flatMap, not_exists, not_and]

theorem isLine_hexLiteral (width value : Nat) : IsLine (hexLiteral width value) := by
  have noDigit : '\n' ∉ hexAlphabet := by decide
  refine isLine_append.mpr ⟨by decide, fun member => ?_⟩
  rw [hex, String.toList_ofList] at member
  exact noDigit (mem_hexAlphabet_of_mem_hexDigits member)

end Text

open Text Text.Reader

/-! ## Dumps -/

/-- What a register dump shows. -/
structure Reading where
  pc : UInt16
  index : UInt16
  /-- Register 0 first. -/
  registers : List UInt8
  /-- Oldest first. -/
  addresses : List UInt16
deriving DecidableEq

namespace Reading

def address : Reader UInt16 := UInt16.ofNat <$> hexNumber 3

def pointerLine : Reader (UInt16 × UInt16) := do
  exactly "PC: "
  let pc ← address
  exactly "  I: "
  let index ← address
  lineEnd (pc, index)

def register (name : String) : Reader UInt8 := do
  exactly name
  exactly ": "
  UInt8.ofNat <$> hexNumber 2

/-- The registers with these names. -/
def registerLine : List String → Reader (List UInt8)
  | [] => lineEnd []
  | [name] => do
      let value ← register name
      lineEnd [value]
  | name :: names => do
      let value ← register name
      exactly "  "
      (value :: ·) <$> registerLine names

def stackLine : Reader (List UInt16) := do
  exactly "Stack:"
  restOfLine (do exactly " "; address) 16

def reader : Reader Reading := do
  let (pc, index) ← pointerLine
  let first ← registerLine ["V0", "V1", "V2", "V3"]
  let second ← registerLine ["V4", "V5", "V6", "V7"]
  let third ← registerLine ["V8", "V9", "VA", "VB"]
  let fourth ← registerLine ["VC", "VD", "VE", "VF"]
  (fun addresses => ⟨pc, index, first ++ second ++ third ++ fourth, addresses⟩) <$> stackLine

/-- A text that goes on behind the dump is not accepted. -/
def ofDump? (text : String) : Option Reading := reader.readAll? text

theorem reads_address {word : UInt16} (inside : word.toNat < memorySize) :
    Reads address (hexLiteral 3 word.toNat) word := by
  have short : (Nat.toDigits 16 word.toNat).length ≤ 3 :=
    (Nat.length_toDigits_le_iff (by decide) (by decide)).mpr inside
  have number := (reads_hexNumber short).map UInt16.ofNat
  rwa [UInt16.ofNat_toNat] at number

theorem reads_pointerLine {pc index : UInt16} (pcInside : pc.toNat < memorySize)
    (indexInside : index.toNat < memorySize) :
    Reads pointerLine
      ("PC: " ++ hexLiteral 3 pc.toNat ++ "  I: " ++ hexLiteral 3 index.toNat ++ "\n")
      (pc, index) := by
  simp only [String.append_assoc]
  apply (reads_exactly "PC: ").bind
  apply (reads_address pcInside).bind
  apply (reads_exactly "  I: ").bind
  exact (reads_address indexInside).bind (reads_lineEnd _)

theorem reads_register (name : String) (value : UInt8) :
    Reads (register name) (name ++ ": " ++ hexLiteral 2 value.toNat) value := by
  have short : (Nat.toDigits 16 value.toNat).length ≤ 2 :=
    (Nat.length_toDigits_le_iff (by decide) (by decide)).mpr value.toNat_lt
  have number := (reads_hexNumber short).map UInt8.ofNat
  rw [UInt8.ofNat_toNat] at number
  rw [String.append_assoc]
  exact (reads_exactly name).bind ((reads_exactly ": ").bind number)

theorem reads_registerLine {fields : List (String × UInt8)} (nonempty : fields ≠ []) :
    Reads (registerLine (fields.map Prod.fst))
      ("  ".intercalate (fields.map fun field =>
        field.1 ++ ": " ++ hexLiteral 2 field.2.toNat) ++ "\n")
      (fields.map Prod.snd) := by
  induction fields with
  | nil => contradiction
  | cons field rest induction =>
      cases rest with
      | nil => exact (reads_register field.1 field.2).bind (reads_lineEnd _)
      | cons next rest =>
          have others := induction (List.cons_ne_nil next rest)
          simp only [List.map_cons] at others ⊢
          rw [String.intercalate_cons_cons, String.append_assoc, String.append_assoc]
          apply (reads_register field.1 field.2).bind
          exact (reads_exactly "  ").bind (others.map _)

theorem reads_stackLine {addresses : List UInt16} (few : addresses.length ≤ 16)
    (inside : ∀ word ∈ addresses, word.toNat < memorySize) :
    Reads stackLine
      ("Stack:" ++ String.join (addresses.map fun word => " " ++ hexLiteral 3 word.toNat) ++
        "\n")
      addresses := by
  have blank : Rejects (lineEnd ([] : List UInt16)) " " := fun _ => rfl
  rw [String.append_assoc]
  apply (reads_exactly "Stack:").bind
  apply reads_restOfLine few
  · intro word member
    exact (reads_exactly " ").bind (reads_address (inside word member))
  · intro word _
    exact blank.append _

end Reading

namespace Machine

/-- The lines of the register dump. -/
def dumpLines (machine : Machine) : List String :=
  let address (word : UInt16) : String := hexLiteral 3 word.toNat
  let register (name : String) (number : UInt8) : String :=
    name ++ ": " ++ hexLiteral 2 (machine.registers.read ⟨number⟩).toNat
  [ "PC: " ++ address machine.pc ++ "  I: " ++ address machine.index,
    "  ".intercalate
      [register "V0" 0x0, register "V1" 0x1, register "V2" 0x2, register "V3" 0x3],
    "  ".intercalate
      [register "V4" 0x4, register "V5" 0x5, register "V6" 0x6, register "V7" 0x7],
    "  ".intercalate
      [register "V8" 0x8, register "V9" 0x9, register "VA" 0xA, register "VB" 0xB],
    "  ".intercalate
      [register "VC" 0xC, register "VD" 0xD, register "VE" 0xE, register "VF" 0xF],
    "Stack:" ++ String.join (machine.stack.toList.map fun word => " " ++ address word) ]

theorem dump_eq_dumpLines (machine : Machine) :
    machine.dump = String.join (machine.dumpLines.map fun line => line ++ "\n") := by
  rfl

theorem isLine_dumpLines (machine : Machine) : ∀ line ∈ machine.dumpLines, IsLine line := by
  intro line member
  simp only [dumpLines, String.intercalate_cons_cons, String.intercalate_singleton,
    List.mem_cons, List.not_mem_nil, or_false] at member
  rcases member with rfl | rfl | rfl | rfl | rfl | rfl
  all_goals
    simp +decide only [isLine_append, isLine_hexLiteral, isLine_join, List.forall_mem_map,
      and_true, implies_true]

/-- The reader takes the whole dump. -/
theorem Bounded.reads_dump {machine : Machine} (bounded : machine.Bounded) :
    Reads Reading.reader machine.dump
      ⟨machine.pc, machine.index, machine.registers.toList, machine.stack.toList⟩ := by
  let value (number : UInt8) : UInt8 := machine.registers.read ⟨number⟩
  have pointers := Reading.reads_pointerLine bounded.pc_lt bounded.index_lt
  have first := Reading.reads_registerLine (List.cons_ne_nil ("V0", value 0x0)
    [("V1", value 0x1), ("V2", value 0x2), ("V3", value 0x3)])
  have second := Reading.reads_registerLine (List.cons_ne_nil ("V4", value 0x4)
    [("V5", value 0x5), ("V6", value 0x6), ("V7", value 0x7)])
  have third := Reading.reads_registerLine (List.cons_ne_nil ("V8", value 0x8)
    [("V9", value 0x9), ("VA", value 0xA), ("VB", value 0xB)])
  have fourth := Reading.reads_registerLine (List.cons_ne_nil ("VC", value 0xC)
    [("VD", value 0xD), ("VE", value 0xE), ("VF", value 0xF)])
  have few : machine.stack.toList.length ≤ 16 := by
    rw [CallStack.length_toList]
    exact bounded.depth_le
  have stack := Reading.reads_stackLine few bounded.address_lt
  rw [dump_eq_dumpLines, RegisterFile.toList_eq_map_read]
  simp only [dumpLines, List.map_cons, List.map_nil, String.join_cons, String.join_nil,
    String.append_empty]
  exact pointers.bind (first.bind (second.bind (third.bind (fourth.bind (stack.map _)))))

theorem Bounded.ofDump?_dump {machine : Machine} (bounded : machine.Bounded) :
    Reading.ofDump? machine.dump =
      some ⟨machine.pc, machine.index, machine.registers.toList, machine.stack.toList⟩ :=
  bounded.reads_dump.readAll?

theorem dump_eq_iff {left right : Machine} (leftBounded : left.Bounded)
    (rightBounded : right.Bounded) :
    left.dump = right.dump ↔
      left.pc = right.pc ∧ left.index = right.index ∧ left.registers = right.registers ∧
        left.stack.toList = right.stack.toList := by
  constructor
  · intro same
    have readings := rightBounded.ofDump?_dump
    rw [← same, leftBounded.ofDump?_dump, Option.some.injEq, Reading.mk.injEq] at readings
    rcases readings with ⟨pc, index, registers, addresses⟩
    exact ⟨pc, index, RegisterFile.toList_inj.mp registers, addresses⟩
  · rintro ⟨pc, index, registers, addresses⟩
    exact dump_congr pc index registers addresses

end Machine

universe u v

/-- A dump is six lines that show the two pointers, the sixteen registers and the
return addresses, and all of these can be read back from it. So machines, whatever
they have been through and whatever peripherals they are wired to, have the same
dump only if they agree on all of this. -/
theorem Console.dump_shows_all_but_memory {State : Type u} {Other : Type v}
    (peripheral : Peripheral State) (state : State) (operations : List Operation)
    (otherPeripheral : Peripheral Other) (otherState : Other)
    (otherOperations : List Operation) :
    let machine := ((initial state).performAll peripheral operations).machine
    let other := ((initial otherState).performAll otherPeripheral otherOperations).machine
    (machine.dumpLines.length = 6 ∧ (∀ line ∈ machine.dumpLines, IsLine line) ∧
      machine.dump = String.join (machine.dumpLines.map fun line => line ++ "\n")) ∧
    Reading.ofDump? machine.dump =
      some ⟨machine.pc, machine.index, machine.registers.toList, machine.stack.toList⟩ ∧
    (machine.dump = other.dump ↔
      machine.pc = other.pc ∧ machine.index = other.index ∧
        machine.registers = other.registers ∧
        machine.stack.toList = other.stack.toList) := by
  intro machine other
  have bounded : machine.Bounded := bounded_performAll peripheral state operations
  have otherBounded : other.Bounded :=
    bounded_performAll otherPeripheral otherState otherOperations
  exact ⟨⟨rfl, machine.isLine_dumpLines, machine.dump_eq_dumpLines⟩, bounded.ofDump?_dump,
    Machine.dump_eq_iff bounded otherBounded⟩

end Chip8
