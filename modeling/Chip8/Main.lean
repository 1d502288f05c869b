import Chip8.Headless.Report

/-! # The command line

Reads the program file and prints the report of its run. -/

namespace Chip8.Headless

/-- The system gives its error numbers with either sign. -/
def ReadFailure.ofCode (code : UInt32) (message : String) : ReadFailure :=
  match min code.toNat (0 - code).toNat with
  | 20 => .notADirectory
  | 21 => .isADirectory
  | 36 => .nameTooLong
  | number => .other number message

def ReadFailure.ofError : IO.Error → ReadFailure
  | .noFileOrDirectory _ _ _ => .notFound
  | .permissionDenied _ _ _ => .permissionDenied
  | .inappropriateType _ code message => .ofCode code message
  | .invalidArgument _ code message => .ofCode code message
  | .resourceExhausted _ code message => .ofCode code message
  | .illegalOperation code message => .ofCode code message
  | .otherError code message => .ofCode code message
  | error => .other 0 error.toString

def readProgram (path : String) : IO (Except ReadFailure (List UInt8)) := do
  try
    let contents ← IO.FS.readBinFile path
    return .ok contents.toList
  catch error =>
    return .error (.ofError error)

end Chip8.Headless

open Chip8.Headless in
def main (arguments : List String) : IO UInt32 := do
  match Options.parse? arguments with
  | none =>
      IO.eprintln "usage: headless [--stop-on-loop] [-s STEPS] PATH"
      return 1
  | some options =>
      let setting? ← IO.getEnv "RUST_LOG"
      let contents ← readProgram options.path
      let report := Report.ofRun options (threshold setting?) contents
      for record in report.log do
        IO.eprintln record.line
      IO.print report.output
      if let some error := report.error? then
        IO.eprintln ("Error: " ++ error)
      return report.exitCode
