/-! # Command-line options

A run without display takes exactly one path and, before or after it and at most
once each, a step count (`-s N`, `-sN`, `-s=N`, `--steps N` or `--steps=N`) and
the switch `--stop-on-loop`. After a bare `--` every argument is a path. -/

namespace Chip8.Headless

structure Options where
  path : String
  steps : Nat
  stopOnLoop : Bool
deriving DecidableEq

namespace Options

/-! ## Step counts -/

/-- Step counts are below this bound. -/
def stepsBound : Nat := UInt64.size

private def digits? (characters : List Char) : Option Nat :=
  if characters ≠ [] ∧ characters.all Char.isDigit then
    some (characters.foldl (fun value digit => 10 * value + (digit.toNat - '0'.toNat)) 0)
  else
    none

/-- A step count is written in decimal digits, perhaps after a plus sign. -/
def steps? (characters : List Char) : Option Nat :=
  let value? :=
    match characters with
    | '+' :: rest => digits? rest
    | _ => digits? characters
  value?.filter fun value => value < stepsBound

example : steps? ['+', '0', '7'] = some 7 := by decide
example : steps? [] = none ∧ steps? ['+'] = none ∧ steps? ['-', '1'] = none := by decide

/-! ## Single arguments -/

/-- What an argument says, read on its own. -/
inductive Argument where
  /-- The path, or the step count where one is awaited. -/
  | plain
  /-- The name of the step count, perhaps with a value. -/
  | steps (count? : Option (List Char))
  | stopOnLoop
  | endOfNames
  | unknown
deriving DecidableEq

namespace Argument

/-- A long name may have a value behind an equals sign. Equals signs in front of
a step count do not belong to it, and a value of the switch says nothing. -/
def ofLongName (text : List Char) : Argument :=
  let (name, value) := text.span (· ≠ '=')
  if name = "stop-on-loop".toList then
    .stopOnLoop
  else if name = "steps".toList then
    .steps (if value.isEmpty then none else some (value.dropWhile (· = '=')))
  else
    .unknown

/-- A single hyphen and the empty text are plain. A long name starts with two
hyphens or more. -/
def ofString (text : String) : Argument :=
  match text.toList with
  | ['-', '-'] => .endOfNames
  | '-' :: '-' :: rest => ofLongName (rest.dropWhile (· = '-'))
  | '-' :: 's' :: value =>
      .steps (if value.isEmpty then none else some (value.dropWhile (· = '=')))
  | '-' :: _ :: _ => .unknown
  | _ => .plain

example : ofString "--steps==5" = .steps (some ['5']) := by decide +kernel
example : ofString "-s" = .steps none ∧ ofString "-" = .plain := by decide +kernel

end Argument

/-! ## Settings

The arguments in order, each with what belongs to it. A step count that is named
but has no value, because another name or the end follows, stands for the usual
one. -/

inductive Setting where
  | path (text : String)
  | steps (count? : Option (List Char))
  | stopOnLoop
deriving DecidableEq

/-- The settings that arguments state. `awaiting` says that the argument before
was the name of the step count without a value. -/
def settings? (awaiting : Bool) : List String → Option (List Setting)
  | [] => some (if awaiting then [.steps none] else [])
  | text :: rest =>
      let unanswered : List Setting := if awaiting then [.steps none] else []
      match Argument.ofString text with
      | .plain =>
          let setting : Setting := if awaiting then .steps (some text.toList) else .path text
          (settings? false rest).map fun settings => setting :: settings
      | .steps none =>
          (settings? true rest).map fun settings => unanswered ++ settings
      | .steps (some count) =>
          (settings? false rest).map fun settings =>
            unanswered ++ .steps (some count) :: settings
      | .stopOnLoop =>
          (settings? false rest).map fun settings => unanswered ++ .stopOnLoop :: settings
      | .endOfNames => some (unanswered ++ rest.map .path)
      | .unknown => none

/-! ## All arguments -/

def defaultSteps : Nat := 1000

def Setting.path? : Setting → Option String
  | .path text => some text
  | _ => none

def Setting.count? : Setting → Option (Option (List Char))
  | .steps count? => some count?
  | _ => none

private def ofCount? : List (Option (List Char)) → Option Nat
  | [] => some defaultSteps
  | [none] => some defaultSteps
  | [some count] => steps? count
  | _ => none

/-- The options that settings amount to, if nothing is missing or repeated. -/
def ofSettings? (settings : List Setting) : Option Options :=
  match settings.filterMap Setting.path?, settings.count .stopOnLoop with
  | [path], 0 => (ofCount? (settings.filterMap Setting.count?)).map (⟨path, ·, false⟩)
  | [path], 1 => (ofCount? (settings.filterMap Setting.count?)).map (⟨path, ·, true⟩)
  | _, _ => none

def parse? (arguments : List String) : Option Options :=
  (settings? false arguments).bind ofSettings?

end Options

end Chip8.Headless
