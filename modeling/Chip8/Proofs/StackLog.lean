import Chip8.Proofs.Execution
import Chip8.Proofs.HexReading

/-! # The log of calls and returns

Calls and returns that succeed are reported, and the texts of their records
determine the call stack: replayed on an empty list, they give its addresses. -/

namespace Chip8

/-! ## What records say -/

/-- A change of the call stack that a record tells of. -/
inductive Linkage where
  | called (returnAddress : Nat)
  | returned (address : Nat)
deriving DecidableEq

namespace Linkage

def isCall : Linkage → Bool
  | .called _ => true
  | .returned _ => false

def isReturn (link : Linkage) : Bool := !link.isCall

/-- Read from the text of a record. The address in question is the last number
that the text shows. -/
def ofMessage? (message : String) : Option Linkage :=
  let text := message.toList
  if "Call ".toList <+: text then some (.called (Text.lastNumber text))
  else if "Return to ".toList <+: text then some (.returned (Text.lastNumber text))
  else none

example : ofMessage? "Call 0xf300, returning to 0x202" = some (.called 0x202) := by decide
example : ofMessage? "Return to 0x202" = some (.returned 0x202) := by decide

/-- A call adds its return address at the end, for which there must be room. A
return takes the last address away, which must be the one that it shows. -/
def after? (addresses : List Nat) : Linkage → Option (List Nat)
  | .called returnAddress =>
      if addresses.length < 16 then some (addresses ++ [returnAddress]) else none
  | .returned address =>
      if addresses.getLast? = some address then some addresses.dropLast else none

/-- All changes in order, if each of them is possible. -/
def replay? (addresses : List Nat) (links : List Linkage) : Option (List Nat) :=
  links.foldlM after? addresses

end Linkage

/-- The change that an event reports. -/
def Event.linkage? : Event → Option Linkage
  | .called _ returnAddress => some (.called returnAddress.toNat)
  | .returned address => some (.returned address.toNat)
  | _ => none

/-! ## Texts of records -/

theorem Text.toList_hexLiteral (width value : Nat) :
    (hexLiteral width value).toList = '0' :: 'x' :: hexDigits width value := by
  simp only [hexLiteral, hex, String.toList_append, String.toList_ofList]
  rfl

theorem Text.head?_toList_append {start : String} {first : Char}
    (head : start.toList.head? = some first) (rest : String) :
    (start ++ rest).toList.head? = some first := by
  rw [String.toList_append, List.head?_append, head]
  rfl

theorem Text.not_prefix_of_head?_ne {start text : List Char} {first other : Char}
    (startHead : start.head? = some first) (textHead : text.head? = some other)
    (different : first ≠ other) : ¬ start <+: text := by
  rintro ⟨rest, rfl⟩
  rw [List.head?_append, startHead] at textHead
  exact different (Option.some.inj textHead)

namespace Linkage

open Text

theorem head?_call : "Call ".toList.head? = some 'C' := rfl

theorem head?_return : "Return to ".toList.head? = some 'R' := rfl

theorem ofMessage?_eq_none {message : String} {first : Char}
    (head : message.toList.head? = some first) (notCall : 'C' ≠ first)
    (notReturn : 'R' ≠ first) : ofMessage? message = none := by
  rw [ofMessage?, if_neg (not_prefix_of_head?_ne head?_call head notCall),
    if_neg (not_prefix_of_head?_ne head?_return head notReturn)]

theorem ofMessage?_called (target : Address) (returnAddress : UInt16) :
    ofMessage? (Event.called target returnAddress).message =
      some (.called returnAddress.toNat) := by
  have text : (Event.called target returnAddress).message.toList =
      "Call ".toList ++ ((hexLiteral 3 target.word.toNat).toList ++
        ", returning to ".toList ++ ['0']) ++ 'x' :: hexDigits 3 returnAddress.toNat := by
    change ("Call " ++ hexLiteral 3 target.word.toNat ++ ", returning to " ++
      hexLiteral 3 returnAddress.toNat).toList = _
    simp only [String.toList_append, toList_hexLiteral 3 returnAddress.toNat,
      List.append_assoc, List.singleton_append]
  have starts : "Call ".toList <+: (Event.called target returnAddress).message.toList := by
    rw [text, List.append_assoc]
    exact List.prefix_append _ _
  rw [ofMessage?, if_pos starts, text, lastNumber_append_hexDigits]

theorem ofMessage?_returned (address : UInt16) :
    ofMessage? (Event.returned address).message = some (.returned address.toNat) := by
  have text : (Event.returned address).message.toList =
      "Return to ".toList ++ ['0'] ++ 'x' :: hexDigits 3 address.toNat := by
    change ("Return to " ++ hexLiteral 3 address.toNat).toList = _
    rw [String.toList_append, toList_hexLiteral, List.append_assoc, List.singleton_append]
  have head : (Event.returned address).message.toList.head? = some 'R' :=
    head?_toList_append head?_return _
  have starts : "Return to ".toList <+: (Event.returned address).message.toList := by
    rw [text, List.append_assoc]
    exact List.prefix_append _ _
  rw [ofMessage?, if_neg (not_prefix_of_head?_ne head?_call head (by decide)),
    if_pos starts, text, lastNumber_append_hexDigits]

/-- The text of an event tells of the change that the event reports, and of none
if it reports none. -/
theorem ofMessage?_message (event : Event) : ofMessage? event.message = event.linkage? := by
  cases event with
  | loaded length =>
      have head : (Event.loaded length).message.toList.head? = some 'L' :=
        head?_toList_append (head?_toList_append (head?_toList_append rfl _) _) _
      exact ofMessage?_eq_none head (by decide) (by decide)
  | fetched pc opcode =>
      have marker : (hexLiteral 3 pc.toNat).toList.head? = some '0' := by
        rw [toList_hexLiteral]
        rfl
      have head : (Event.fetched pc opcode).message.toList.head? = some '0' :=
        head?_toList_append (head?_toList_append (head?_toList_append
          (head?_toList_append marker _) _) _) _
      exact ofMessage?_eq_none head (by decide) (by decide)
  | called target returnAddress => exact ofMessage?_called target returnAddress
  | returned address => exact ofMessage?_returned address
  | skippedUnknown opcode pc =>
      have head : (Event.skippedUnknown opcode pc).message.toList.head? = some 'S' :=
        head?_toList_append (head?_toList_append (head?_toList_append rfl _) _) _
      exact ofMessage?_eq_none head (by decide) (by decide)

/-- Whoever hears the level of calls and returns learns of all changes. -/
theorem filterMap_ofMessage?_heard {threshold : Option Level}
    (kept : Level.debug.heard threshold = true) (events : List Event) :
    ((events.filter fun event => event.level.heard threshold).map
      Event.message).filterMap ofMessage? = events.filterMap Event.linkage? := by
  rw [List.filterMap_map, List.filterMap_filter]
  congr 1
  funext event
  rw [Function.comp_apply, ofMessage?_message]
  cases event with
  | called target returnAddress => exact if_pos kept
  | returned address => exact if_pos kept
  | _ => exact ite_self none

/-! ## Replays -/

variable {addresses final : List Nat} {links : List Linkage}

theorem replay?_append (addresses : List Nat) (first second : List Linkage) :
    replay? addresses (first ++ second) =
      (replay? addresses first).bind fun next => replay? next second :=
  List.foldlM_append

theorem replay?_cons (addresses : List Nat) (link : Linkage) (rest : List Linkage) :
    replay? addresses (link :: rest) =
      (link.after? addresses).bind fun next => replay? next rest :=
  List.foldlM_cons

theorem length_of_after? {link : Linkage} (applied : link.after? addresses = some final) :
    final.length + (if link.isReturn then 1 else 0) =
      addresses.length + (if link.isCall then 1 else 0) := by
  cases link with
  | called returnAddress =>
      simp only [after?, Option.ite_none_right_eq_some, Option.some.injEq] at applied
      rcases applied with ⟨_, rfl⟩
      rw [List.length_append, List.length_singleton]
      rfl
  | returned address =>
      simp only [after?, Option.ite_none_right_eq_some, Option.some.injEq] at applied
      rcases applied with ⟨last, rfl⟩
      have occupied : addresses.length ≠ 0 := by
        rintro empty
        rw [List.length_eq_zero_iff.mp empty] at last
        cases last
      rw [List.length_dropLast]
      exact Nat.sub_add_cancel (Nat.one_le_iff_ne_zero.mpr occupied)

/-- Each call makes the list longer by one and each return shorter. -/
theorem length_of_replay? (replayed : replay? addresses links = some final) :
    final.length + links.countP isReturn = addresses.length + links.countP isCall := by
  induction links generalizing addresses with
  | nil =>
      cases replayed
      rfl
  | cons link rest induction =>
      rw [replay?_cons, Option.bind_eq_some_iff] at replayed
      rcases replayed with ⟨next, applied, remaining⟩
      have one := length_of_after? applied
      have others := induction remaining
      rw [List.countP_cons, List.countP_cons]
      omega

end Linkage

/-! ## The stack behind the log -/

def CallStack.numbers (stack : CallStack) : List Nat := stack.toList.map UInt16.toNat

/-- What the outcome reports leads from one stack to the other. -/
def Outcome.Tracks (outcome : Outcome) (before : Machine) : Prop :=
  Linkage.replay? before.stack.numbers (outcome.events.filterMap Event.linkage?) =
    some outcome.machine.stack.numbers

theorem Outcome.Tracks.andThen {before : Machine} {first : Outcome}
    {second : Machine → Outcome} (tracked : first.Tracks before)
    (later : (second first.machine).Tracks first.machine) :
    (first.andThen second).Tracks before := by
  cases faulted : first.fault? with
  | some fault =>
      rw [andThen_of_fault faulted]
      exact tracked
  | none =>
      rw [andThen_of_success faulted, Tracks, List.filterMap_append,
        Linkage.replay?_append, tracked]
      exact later

namespace Machine

theorem tracks_enterRoutine (machine : Machine) (target : Address) :
    (machine.enterRoutine target).Tracks machine := by
  rcases Nat.lt_or_eq_of_le machine.stack.depth_le with room | full
  · rcases enterRoutine_of_room room target with ⟨stack, pushed, entered⟩
    have short : machine.stack.numbers.length < 16 := by
      rwa [CallStack.numbers, List.length_map, CallStack.length_toList]
    have longer : stack.numbers =
        machine.stack.numbers ++ [(following machine.pc).toNat] := by
      rw [CallStack.numbers, pushed, List.map_append]
      rfl
    rw [entered, Outcome.Tracks]
    change Linkage.replay? _ [.called (following machine.pc).toNat] = some stack.numbers
    rw [Linkage.replay?_cons, Linkage.after?, if_pos short, longer]
    rfl
  · rw [enterRoutine_of_full full]
    rfl

theorem tracks_leaveRoutine (machine : Machine) : machine.leaveRoutine.Tracks machine := by
  rcases Nat.eq_zero_or_pos machine.stack.depth with empty | occupied
  · rw [leaveRoutine_of_empty empty]
    rfl
  · rcases leaveRoutine_of_occupied occupied with ⟨address, stack, popped, left⟩
    have longer : machine.stack.numbers = stack.numbers ++ [address.toNat] := by
      rw [CallStack.numbers, popped, List.map_append]
      rfl
    rw [left, Outcome.Tracks]
    change Linkage.replay? _ [.returned address.toNat] = some stack.numbers
    rw [Linkage.replay?_cons, Linkage.after?, longer, if_pos List.getLast?_concat,
      List.dropLast_concat]
    rfl

theorem tracks_execute (machine : Machine) (instruction : Instruction) :
    (machine.execute instruction).Tracks machine := by
  cases linking : instruction.usesStack with
  | false =>
      have silent : (machine.execute instruction).events.filterMap Event.linkage? = [] := by
        cases instruction with
        | call target => cases linking
        | ret => cases linking
        | _ => rfl
      rw [Outcome.Tracks, silent, (machine.execute_of_not_usesStack linking).2]
      rfl
  | true =>
      rcases Instruction.usesStack_iff.mp linking with ⟨target, rfl⟩ | rfl
      · exact machine.tracks_enterRoutine target
      · exact machine.tracks_leaveRoutine

theorem tracks_executeAll (machine : Machine) (instructions : List Instruction) :
    (machine.executeAll instructions).Tracks machine := by
  induction instructions generalizing machine with
  | nil => rfl
  | cons instruction rest induction =>
      exact (machine.tracks_execute instruction).andThen (induction _)

theorem tracks_perform (machine : Machine) (operation : Operation) :
    (machine.perform operation).Tracks machine := by
  cases operation with
  | load program =>
      rw [perform, load]
      split <;> rfl
  | step =>
      rw [perform]
      cases fetched : machine.fetch with
      | error fault =>
          rw [step_of_unfetched fetched]
          rfl
      | ok opcode =>
          rw [step_of_fetched fetched]
          exact machine.tracks_execute _
  | execute instruction => exact machine.tracks_execute instruction
  | executeAll instructions => exact machine.tracks_executeAll instructions

theorem tracks_performAll (machine : Machine) (operations : List Operation) :
    Linkage.replay? machine.stack.numbers
        (((machine.outcomes operations).flatMap Outcome.events).filterMap Event.linkage?) =
      some (machine.performAll operations).stack.numbers := by
  induction operations generalizing machine with
  | nil => rfl
  | cons operation rest induction =>
      rw [outcomes, performAll, List.flatMap_cons, List.filterMap_append,
        Linkage.replay?_append, machine.tracks_perform operation]
      exact induction _

/-- Replaying the texts of a log on an empty list always succeeds: no return
meets an empty list or shows another address than the last one, and no call meets
a list of sixteen. It ends with the return addresses on the stack, so as many
are there as calls without return are in the log. -/
theorem stack_of_log {threshold : Option Level}
    (kept : Level.debug.heard threshold = true) (operations : List Operation) :
    let machine := Machine.initial.performAll operations
    let events := (Machine.initial.outcomes operations).flatMap Outcome.events
    let log := (events.filter fun event => event.level.heard threshold).map Event.message
    let links := log.filterMap Linkage.ofMessage?
    Linkage.replay? [] links = some (machine.stack.toList.map UInt16.toNat) ∧
      machine.stack.depth + links.countP Linkage.isReturn =
        links.countP Linkage.isCall := by
  intro machine events log links
  have shown : links = events.filterMap Event.linkage? :=
    Linkage.filterMap_ofMessage?_heard kept events
  have replayed : Linkage.replay? [] links = some machine.stack.numbers := by
    rw [shown]
    exact Machine.initial.tracks_performAll operations
  have lengths := Linkage.length_of_replay? replayed
  rw [CallStack.numbers, List.length_map, CallStack.length_toList, List.length_nil,
    Nat.zero_add] at lengths
  exact ⟨replayed, lengths⟩

/-- A fetched call, a return too many, a call and its return in a list, and two
calls that stay open, one of them with a target beyond memory. -/
theorem stack_of_log_of_two_open_calls :
    let operations : List Operation :=
      [.load [0x22, 0x02, 0x00, 0xEE], .step, .step, .step, .execute .ret,
        .executeAll [.call ⟨0xF345⟩, .call ⟨0x400⟩, .ret, .unknown ⟨0x8AB9⟩],
        .execute (.call ⟨0x500⟩)]
    let events := (Machine.initial.outcomes operations).flatMap Outcome.events
    let log := (events.filter fun event => event.level.heard (some .debug)).map Event.message
    Level.debug.heard (some .debug) = true ∧
      (Machine.initial.performAll operations).stack.toList = [0x204, 0x34B] ∧
      Linkage.replay? [] (log.filterMap Linkage.ofMessage?) = some [0x204, 0x34B] := by
  intro operations events log
  have kept : Level.debug.heard (some .debug) = true := rfl
  have stack : (Machine.initial.performAll operations).stack.toList = [0x204, 0x34B] := by
    decide +kernel
  have replayed := (stack_of_log kept operations).1
  rw [stack] at replayed
  exact ⟨kept, stack, replayed⟩

end Machine

end Chip8
