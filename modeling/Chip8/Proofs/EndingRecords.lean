import Chip8.Headless.Report
import Chip8.Proofs.Readers

/-! # What the log says about the end of a run

The runner logs a fault as an error and a loop as an information. The record of
either is read as a line of text: what it names is what the reader finds there. -/

namespace Chip8

open Text Text.Reader

/-! ## Faults -/

namespace Fault

def overflowReader : Reader Fault := do
  exactly "stack overflow: no room to save return address "
  .stackOverflow <$> wordBefore "\n"

def underflowReader : Reader Fault := do
  exactly "stack underflow: return with an empty call stack"
  lineEnd .stackUnderflow

def boundsReader : Reader Fault := do
  exactly "out of bounds: "
  let length ← decimalBefore " bytes at "
  let address ← hexBefore " do not fit in memory"
  lineEnd (.outOfBounds address length)

/-- Reads the sentence on a fault at the end of a line. -/
def reader : Reader Fault := overflowReader <|> underflowReader <|> boundsReader

theorem reads_stackOverflow (returnAddress : UInt16) :
    Reads overflowReader ((stackOverflow returnAddress).message ++ "\n")
      (.stackOverflow returnAddress) := by
  have ends : EndsNumber "\n" := ⟨'\n', rfl, by decide⟩
  change Reads overflowReader ("stack overflow: no room to save return address " ++
    hexLiteral 3 returnAddress.toNat ++ "\n") _
  rw [String.append_assoc]
  apply (reads_exactly "stack overflow: no room to save return address ").bind
  exact (reads_wordBefore ends 3 returnAddress).map _

theorem reads_stackUnderflow :
    Reads underflowReader (stackUnderflow.message ++ "\n") .stackUnderflow :=
  (reads_exactly "stack underflow: return with an empty call stack").bind (reads_lineEnd _)

theorem message_outOfBounds (address length : Nat) :
    (outOfBounds address length).message =
      "out of bounds: " ++ (toString length ++ (" bytes at " ++
        (hexLiteral 4 address ++ " do not fit in memory"))) := by
  change "out of bounds: " ++ toString length ++ " bytes at " ++ hexLiteral 4 address ++
    " do not fit in memory" = _
  simp only [String.append_assoc]

theorem reads_outOfBounds (address length : Nat) :
    Reads boundsReader ((outOfBounds address length).message ++ "\n")
      (.outOfBounds address length) := by
  have lengthEnds : EndsNumber " bytes at " := ⟨' ', rfl, by decide⟩
  have addressEnds : EndsNumber " do not fit in memory" := ⟨' ', rfl, by decide⟩
  simp only [message_outOfBounds, String.append_assoc]
  apply (reads_exactly "out of bounds: ").bind
  apply (reads_decimalBefore lengthEnds length).bind_append
  exact (reads_hexBefore addressEnds 4 address).bind_append (reads_lineEnd _)

theorem reads_message (fault : Fault) : Reads reader (fault.message ++ "\n") fault := by
  cases fault with
  | stackOverflow returnAddress => exact (reads_stackOverflow returnAddress).orElse_left _
  | stackUnderflow =>
      have noOverflow : Rejects overflowReader (stackUnderflow.message ++ "\n") :=
        fun _ => rfl
      exact (reads_stackUnderflow.orElse_left _).orElse_right noOverflow
  | outOfBounds address length =>
      have noOverflow : Rejects overflowReader "out of bounds: " := fun _ => rfl
      have noUnderflow : Rejects underflowReader "out of bounds: " := fun _ => rfl
      have last := reads_outOfBounds address length
      rw [message_outOfBounds, String.append_assoc] at last ⊢
      exact (last.orElse_right (noUnderflow.append _)).orElse_right (noOverflow.append _)

end Fault

namespace Headless

/-! ## Endings -/

namespace Ending

def failureReader : Reader Ending := do
  exactly "Step "
  let steps ← decimalBefore " at "
  let pc ← wordBefore " failed: "
  .failed steps pc <$> Fault.reader

def loopReader : Reader Ending := do
  exactly "Looping at "
  let pc ← wordBefore " after "
  let steps ← decimalBefore " steps"
  lineEnd (.looping pc steps)

/-- The ending that a record of the runner names. A fault is an error and a loop
is not. -/
def ofRecord? (record : LogRecord) : Option Ending :=
  if record.target = "headless" then
    match record.level with
    | .error => failureReader.readAll? (record.message ++ "\n")
    | .info => loopReader.readAll? (record.message ++ "\n")
    | _ => none
  else
    none

example : ofRecord? ⟨.info, "headless", "Looping at 0x204 after 3 steps"⟩ =
    some (.looping 0x204 3) := by decide

theorem ofRecord?_error (message : String) :
    ofRecord? ⟨.error, "headless", message⟩ = failureReader.readAll? (message ++ "\n") :=
  if_pos rfl

theorem ofRecord?_info (message : String) :
    ofRecord? ⟨.info, "headless", message⟩ = loopReader.readAll? (message ++ "\n") :=
  if_pos rfl

theorem reads_failed (steps : Nat) (pc : UInt16) (fault : Fault) :
    Reads failureReader
      ("Step " ++ toString steps ++ " at " ++ hexLiteral 3 pc.toNat ++ " failed: " ++
        fault.message ++ "\n")
      (.failed steps pc fault) := by
  have stepsEnd : EndsNumber " at " := ⟨' ', rfl, by decide⟩
  have pcEnds : EndsNumber " failed: " := ⟨' ', rfl, by decide⟩
  simp only [String.append_assoc]
  apply (reads_exactly "Step ").bind
  apply (reads_decimalBefore stepsEnd steps).bind_append
  exact (reads_wordBefore pcEnds 3 pc).bind_append (fault.reads_message.map _)

theorem reads_looping (pc : UInt16) (steps : Nat) :
    Reads loopReader
      ("Looping at " ++ hexLiteral 3 pc.toNat ++ " after " ++ toString steps ++ " steps" ++
        "\n")
      (.looping pc steps) := by
  have pcEnds : EndsNumber " after " := ⟨' ', rfl, by decide⟩
  have stepsEnd : EndsNumber " steps" := ⟨' ', rfl, by decide⟩
  simp only [String.append_assoc]
  apply (reads_exactly "Looping at ").bind
  apply (reads_wordBefore pcEnds 3 pc).bind_append
  exact (reads_decimalBefore stepsEnd steps).bind_append (reads_lineEnd _)

/-- What the runner logs about an ending names it. -/
theorem ofRecord?_of_endingRecords {ending : Ending} {record : LogRecord}
    (logged : Report.endingRecords ending = [record]) : ofRecord? record = some ending := by
  cases ending with
  | budgetSpent => cases logged
  | looping pc steps =>
      cases logged
      exact (ofRecord?_info _).trans (reads_looping pc steps).readAll?
  | failed steps pc fault =>
      cases logged
      exact (ofRecord?_error _).trans (reads_failed steps pc fault).readAll?

theorem ofRecord?_ofEvent (event : Event) : ofRecord? (.ofEvent event) = none := by
  have other : "chip_8_core::emulator::emulator" ≠ "headless" := by decide
  exact if_neg other

theorem ofRecord?_announcement (path : String) :
    ofRecord? ⟨.info, "headless", "Executing " ++ path⟩ = none := by
  have noLoop : Rejects loopReader "Executing " := fun _ => rfl
  rw [ofRecord?_info]
  exact ((noLoop.append path).append "\n").readAll?

end Ending

end Headless

end Chip8
