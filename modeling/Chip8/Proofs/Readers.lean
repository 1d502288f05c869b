import Chip8.Proofs.HexReading

/-! # Readers

A reader takes a text apart from the front. Readers that are put together read
texts that are put together, so what a writer wrote can be read back by a reader
of the same shape. -/

namespace Chip8.Text

/-- A reader takes what it understands off the front of a text. -/
abbrev Reader (α : Type) := StateT (List Char) Option α

namespace Reader

variable {α β : Type}

/-! ## Texts, lines and numbers -/

/-- This text and no other. -/
def exactly (expected : String) : Reader Unit := fun text =>
  if expected.toList <+: text then some ((), text.drop expected.toList.length) else none

/-- So many digits. -/
def digits (width : Nat) : Reader Nat := fun text =>
  let front := text.take width
  if front.length = width ∧ front.all (· ∈ hexAlphabet) then
    some (hexValue front, text.drop width)
  else
    none

/-- A marked number of so many digits. -/
def hexNumber (width : Nat) : Reader Nat := do
  exactly "0x"
  digits width

example : (hexNumber 3).run "0x2a4 0x".toList = some (0x2A4, " 0x".toList) := by decide

def lineEnd (value : α) : Reader α := (fun _ => value) <$> exactly "\n"

/-- Items up to the end of the line, but not more than `count`. -/
def restOfLine (item : Reader α) : Nat → Reader (List α)
  | 0 => lineEnd []
  | count + 1 =>
      lineEnd [] <|> do
        let first ← item
        (first :: ·) <$> restOfLine item count

/-- What stands before the delimiter, which is taken as well. The first character
of the delimiter ends the field, and no field is empty. -/
def before (delimiter : String) : Reader (List Char) := fun text =>
  let field := text.takeWhile (some · ≠ delimiter.toList.head?)
  let rest := text.drop field.length
  if 0 < field.length ∧ delimiter.toList <+: rest then
    some (field, rest.drop delimiter.toList.length)
  else
    none

/-- A value is taken only if the function accepts it. -/
def filterMap (reader : Reader α) (f : α → Option β) : Reader β := do
  let value ← reader
  StateT.lift (f value)

/-- A decimal number of any size. -/
def decimalBefore (delimiter : String) : Reader Nat :=
  (before delimiter).filterMap fun digits =>
    if digits.all Char.isDigit then some (Nat.ofDigitChars 10 digits 0) else none

/-- A marked number of any size. -/
def hexBefore (delimiter : String) : Reader Nat := do
  exactly "0x"
  (before delimiter).filterMap fun digits =>
    if digits.all (· ∈ hexAlphabet) then some (hexValue digits) else none

/-- A marked number of sixteen bits. -/
def wordBefore (delimiter : String) : Reader UInt16 :=
  (hexBefore delimiter).filterMap fun value =>
    if value < UInt16.size then some (.ofNat value) else none

example : (decimalBefore " steps").run "27 steps.".toList = some (27, ".".toList) := by
  decide

example : (wordBefore ":").run "0x10200: ".toList = none := by decide

/-- The value of a text that the reader takes as a whole. -/
def readAll? (reader : Reader α) (text : String) : Option α :=
  match reader.run text.toList with
  | some (value, []) => some value
  | _ => none

/-! ## What readers read -/

/-- The reader gives this value for this text, whatever follows. -/
def Reads (reader : Reader α) (text : String) (value : α) : Prop :=
  ∀ rest, reader.run (text.toList ++ rest) = some (value, rest)

/-- The reader understands nothing that begins with this text. -/
def Rejects (reader : Reader α) (text : String) : Prop :=
  ∀ rest, reader.run (text.toList ++ rest) = none

variable {reader first second : Reader α} {text front back : String} {value : α}

theorem Reads.readAll? (reads : Reads reader text value) :
    reader.readAll? text = some value := by
  have whole := reads []
  rw [List.append_nil] at whole
  rw [Reader.readAll?, whole]

theorem Reads.bind {second : α → Reader β} {middle : α} {value : β}
    (before : Reads first front middle) (after : Reads (second middle) back value) :
    Reads (first >>= second) (front ++ back) value := by
  intro rest
  rw [StateT.run_bind, String.toList_append, List.append_assoc, before]
  exact after rest

/-- The same for a text whose front is written in two parts. -/
theorem Reads.bind_append {second : α → Reader β} {middle : α} {value : β} {mark : String}
    (before : Reads first (front ++ mark) middle) (after : Reads (second middle) back value) :
    Reads (first >>= second) (front ++ (mark ++ back)) value := by
  rw [← String.append_assoc]
  exact before.bind after

theorem Reads.map (reads : Reads reader text value) (f : α → β) :
    Reads (f <$> reader) text (f value) := by
  intro rest
  rw [StateT.run_map, reads]
  rfl

theorem Reads.filterMap {f : α → Option β} {result : β} (reads : Reads reader text value)
    (accepted : f value = some result) : Reads (reader.filterMap f) text result := by
  intro rest
  rw [Reader.filterMap, StateT.run_bind, reads]
  change (StateT.lift (f value)).run rest = _
  rw [accepted]
  rfl

theorem Reads.orElse_left (reads : Reads first text value) (second : Reader α) :
    Reads (first <|> second) text value := by
  intro rest
  change (first.run (text.toList ++ rest) <|> second.run (text.toList ++ rest)) = _
  rw [reads]
  rfl

theorem Reads.orElse_right (reads : Reads second text value)
    (rejects : Rejects first text) : Reads (first <|> second) text value := by
  intro rest
  change (first.run (text.toList ++ rest) <|> second.run (text.toList ++ rest)) = _
  rw [rejects, reads]
  rfl

theorem Rejects.append (rejects : Rejects reader text) (more : String) :
    Rejects reader (text ++ more) := by
  intro rest
  rw [String.toList_append, List.append_assoc]
  exact rejects (more.toList ++ rest)

theorem Rejects.readAll? (rejects : Rejects reader text) : reader.readAll? text = none := by
  have whole := rejects []
  rw [List.append_nil] at whole
  rw [Reader.readAll?, whole]

theorem reads_exactly (expected : String) : Reads (exactly expected) expected () := by
  intro rest
  change exactly expected _ = _
  rw [exactly, if_pos (List.prefix_append _ _), List.drop_left]

theorem reads_lineEnd (value : α) : Reads (lineEnd value) "\n" value :=
  (reads_exactly "\n").map fun _ => value

/-- The items of a line are read if none of them looks like its end. -/
theorem reads_restOfLine {item : Reader α} {write : α → String} {values : List α}
    {count : Nat} (few : values.length ≤ count)
    (reads : ∀ value ∈ values, Reads item (write value) value)
    (goesOn : ∀ value ∈ values, Rejects (lineEnd ([] : List α)) (write value)) :
    Reads (restOfLine item count) (String.join (values.map write) ++ "\n") values := by
  have ending : Reads (lineEnd ([] : List α)) "\n" [] := reads_lineEnd []
  induction values generalizing count with
  | nil =>
      cases count with
      | zero => exact ending
      | succ count => exact ending.orElse_left _
  | cons value rest induction =>
      cases count with
      | zero => cases few
      | succ count =>
          have others := induction (Nat.le_of_succ_le_succ few)
            (fun other member => reads other (List.mem_cons_of_mem _ member))
            (fun other member => goesOn other (List.mem_cons_of_mem _ member))
          rw [List.map_cons, String.join_cons, String.append_assoc]
          refine .orElse_right ?_ ((goesOn value List.mem_cons_self).append _)
          exact (reads value List.mem_cons_self).bind (others.map (value :: ·))

/-! ## Numbers of so many digits -/

theorem all_mem_hexAlphabet (width value : Nat) :
    (hexDigits width value).all (· ∈ hexAlphabet) = true :=
  List.all_eq_true.mpr fun _ member =>
    decide_eq_true (mem_hexAlphabet_of_mem_hexDigits member)

theorem reads_digits {width value : Nat}
    (short : (Nat.toDigits 16 value).length ≤ width) :
    Reads (digits width) (hex width value) value := by
  intro rest
  have length := length_hexDigits short
  change digits width _ = _
  rw [hex, String.toList_ofList, digits, List.take_left' length, List.drop_left' length,
    if_pos ⟨length, all_mem_hexAlphabet width value⟩, hexValue_hexDigits]

theorem reads_hexNumber {width value : Nat}
    (short : (Nat.toDigits 16 value).length ≤ width) :
    Reads (hexNumber width) (hexLiteral width value) value :=
  (reads_exactly "0x").bind (reads_digits short)

/-! ## Numbers of any size -/

/-- The delimiter begins with a character that is no digit. -/
def EndsNumber (delimiter : String) : Prop :=
  ∃ mark, delimiter.toList.head? = some mark ∧ mark ∉ hexAlphabet

theorem reads_before {delimiter : String} {mark : Char}
    (head : delimiter.toList.head? = some mark) (nonempty : text.toList ≠ [])
    (unmarked : mark ∉ text.toList) :
    Reads (before delimiter) (text ++ delimiter) text.toList := by
  intro rest
  have inside : ∀ character ∈ text.toList,
      decide (some character ≠ delimiter.toList.head?) = true := by
    intro character member
    rw [head]
    exact decide_eq_true fun same => unmarked (Option.some.inj same ▸ member)
  have outside : (delimiter.toList ++ rest).takeWhile
      (some · ≠ delimiter.toList.head?) = [] := by
    rcases List.head?_eq_some_iff.mp head with ⟨others, starts⟩
    rw [head, starts, List.cons_append]
    exact List.takeWhile_cons_of_neg (by simp)
  change before delimiter _ = _
  rw [String.toList_append, List.append_assoc, before, List.takeWhile_append_of_pos inside,
    outside, List.append_nil, List.drop_left,
    if_pos ⟨List.length_pos_iff.mpr nonempty, List.prefix_append _ _⟩, List.drop_left]

theorem reads_decimalBefore {delimiter : String} (ends : EndsNumber delimiter)
    (value : Nat) : Reads (decimalBefore delimiter) (toString value ++ delimiter) value := by
  rcases ends with ⟨mark, head, noDigit⟩
  have text : (toString value).toList = Nat.toDigits 10 value := by
    rw [Nat.toString_eq_repr, Nat.toList_repr]
  have nonempty : Nat.toDigits 10 value ≠ [] := Nat.toDigits_ne_nil
  have unmarked : mark ∉ Nat.toDigits 10 value := by
    intro member
    rcases mem_toDigits (by decide) member with ⟨number, small, rfl⟩
    exact noDigit (digitChar_mem_hexAlphabet (Nat.lt_trans small (by decide)))
  have digitsOnly : (Nat.toDigits 10 value).all Char.isDigit = true :=
    List.all_eq_true.mpr fun _ member =>
      Nat.isDigit_of_mem_toDigits (by decide) (by decide) member
  rw [← text] at nonempty unmarked
  refine (reads_before head nonempty unmarked).filterMap ?_
  rw [text, if_pos digitsOnly, Nat.ofDigitChars_ten_toDigits]

theorem reads_hexBefore {delimiter : String} (ends : EndsNumber delimiter)
    (width value : Nat) :
    Reads (hexBefore delimiter) (hexLiteral width value ++ delimiter) value := by
  rcases ends with ⟨mark, head, noDigit⟩
  have text : (hex width value).toList = hexDigits width value := String.toList_ofList
  have nonempty : hexDigits width value ≠ [] :=
    List.append_ne_nil_of_right_ne_nil _ Nat.toDigits_ne_nil
  have unmarked : mark ∉ hexDigits width value := fun member =>
    noDigit (mem_hexAlphabet_of_mem_hexDigits member)
  rw [← text] at nonempty unmarked
  rw [hexLiteral, String.append_assoc]
  apply (reads_exactly "0x").bind
  refine (reads_before head nonempty unmarked).filterMap ?_
  rw [text, if_pos (all_mem_hexAlphabet width value), hexValue_hexDigits]

theorem reads_wordBefore {delimiter : String} (ends : EndsNumber delimiter) (width : Nat)
    (word : UInt16) :
    Reads (wordBefore delimiter) (hexLiteral width word.toNat ++ delimiter) word := by
  refine (reads_hexBefore ends width word.toNat).filterMap ?_
  rw [if_pos word.toNat_lt, UInt16.ofNat_toNat]

end Reader

end Chip8.Text
