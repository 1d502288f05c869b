import Chip8.Headless.Execution
import Chip8.Headless.Options
import Chip8.Machine.Dump
import Chip8.Text.Quoted

/-! # Reports

Everything that a run without display says: the log, the register dump, and the
error with which it ends, if it does. The program file has been read by then, or
could not be read. -/

namespace Chip8.Headless

/-! ## Unreadable files -/

inductive ReadFailure where
  | notFound
  | permissionDenied
  | notADirectory
  | isADirectory
  | nameTooLong
  | other (code : Nat) (message : String)
deriving DecidableEq

namespace ReadFailure

/-- The error number of the operating system. -/
def code : ReadFailure → Nat
  | .notFound => 2
  | .permissionDenied => 13
  | .notADirectory => 20
  | .isADirectory => 21
  | .nameTooLong => 36
  | .other code _ => code

def kind : ReadFailure → String
  | .notFound => "NotFound"
  | .permissionDenied => "PermissionDenied"
  | .notADirectory => "NotADirectory"
  | .isADirectory => "IsADirectory"
  | .nameTooLong => "InvalidFilename"
  | .other _ _ => "Uncategorized"

def message : ReadFailure → String
  | .notFound => "No such file or directory"
  | .permissionDenied => "Permission denied"
  | .notADirectory => "Not a directory"
  | .isADirectory => "Is a directory"
  | .nameTooLong => "File name too long"
  | .other _ message => message

def detail (failure : ReadFailure) : String :=
  "Os \x7b code: " ++ toString failure.code ++ ", kind: " ++ failure.kind ++
    ", message: " ++ Text.quoted failure.message ++ " \x7d"

end ReadFailure

/-! ## The log -/

structure LogRecord where
  level : Level
  /-- The part of the program that speaks. -/
  target : String
  message : String
deriving DecidableEq

namespace LogRecord

def ofRunner (level : Level) (message : String) : LogRecord :=
  ⟨level, "headless", message⟩

def ofEvent (event : Event) : LogRecord :=
  ⟨event.level, "chip_8_core::emulator::emulator", event.message⟩

/-- The line that shows a record. Levels are padded to one width. -/
def line (record : LogRecord) : String :=
  "[" ++ String.ofList (record.level.name.toList.rightpad 5 ' ') ++ " " ++
    record.target ++ "] " ++ record.message

end LogRecord

/-- The threshold that a setting names. Errors are heard if there is no setting.
A setting is read only if it is a single level for all targets, or `off`. Directives
for single targets (`headless`, `headless=info`) and lists of directives are not
interpreted: like a text that names no level, they leave nothing to be heard. -/
def threshold (setting? : Option String) : Option Level :=
  match setting?.map String.toLower with
  | none | some "" | some "error" => some .error
  | some "warn" => some .warn
  | some "info" => some .info
  | some "debug" => some .debug
  | some "trace" => some .trace
  | some _ => none

/-! ## The report -/

structure Report where
  log : List LogRecord
  output : String
  error? : Option String
deriving DecidableEq

namespace Report

def exitCode (report : Report) : UInt32 :=
  if report.error?.isSome then 1 else 0

/-- What the runner itself logs about an ending. -/
def endingRecords : Ending → List LogRecord
  | .budgetSpent => []
  | .looping pc steps =>
      [.ofRunner .info
        ("Looping at " ++ Text.hexLiteral 3 pc.toNat ++ " after " ++
          toString steps ++ " steps")]
  | .failed steps pc fault =>
      [.ofRunner .error
        ("Step " ++ toString steps ++ " at " ++ Text.hexLiteral 3 pc.toNat ++
          " failed: " ++ fault.message)]

def endingError? : Ending → Option String
  | .budgetSpent => none
  | .looping _ _ => none
  | .failed _ _ fault => some fault.detail

def ofExecution (execution : Execution) : Report where
  log := execution.events.map .ofEvent ++ endingRecords execution.ending
  output := execution.machine.dump
  error? := endingError? execution.ending

/-- The report on a program, from a machine that is switched on. -/
def ofProgram (options : Options) (heard : Event → Bool) (program : List UInt8) :
    Report :=
  let loading := Machine.initial.load program
  match loading.fault? with
  | some fault => ⟨[], "", some fault.detail⟩
  | none =>
      let report :=
        ofExecution (.of options.stopOnLoop heard loading.machine options.steps)
      { report with
        log := (loading.events.filter heard).map .ofEvent ++ report.log }

/-- The report on a run, of which only records at or above the threshold are
kept. -/
def ofRun (options : Options) (threshold : Option Level)
    (contents : Except ReadFailure (List UInt8)) : Report :=
  let announcement : LogRecord :=
    .ofRunner .info ("Executing " ++ Text.quoted options.path)
  let report : Report :=
    match contents with
    | .error failure => ⟨[], "", some failure.detail⟩
    | .ok program =>
        ofProgram options (fun event => event.level.heard threshold) program
  { report with
    log := (announcement :: report.log).filter fun record =>
      record.level.heard threshold }

end Report

end Chip8.Headless
