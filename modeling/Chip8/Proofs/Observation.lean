import Chip8.Machine.Dump
import Chip8.Machine.Operation

/-! # Observations

Everything that can be seen from outside after an operation. Of the call stack
this is what lies in its occupied slots and how many there are. -/

namespace Chip8

structure Observation where
  fault? : Option Fault
  pc : UInt16
  index : UInt16
  registers : RegisterFile
  memory : Memory
  /-- The occupied slots of the call stack, oldest first. -/
  addresses : List UInt16
  /-- The position of the top slot. -/
  pointer? : Option Nat
  dump : String
  /-- What was reported. The level and the text of a record depend on nothing but
  its event. -/
  events : List Event
  /-- What was handed to the peripheral. -/
  signals : List Signal
deriving DecidableEq

def Outcome.observe (outcome : Outcome) : Observation where
  fault? := outcome.fault?
  pc := outcome.machine.pc
  index := outcome.machine.index
  registers := outcome.machine.registers
  memory := outcome.machine.memory
  addresses := outcome.machine.stack.toList
  pointer? := outcome.machine.stack.pointer?
  dump := outcome.machine.dump
  events := outcome.events
  signals := outcome.signals

/-- What is seen of a machine, one operation after the other. -/
def Machine.observations (machine : Machine) (operations : List Operation) :
    List Observation :=
  (machine.outcomes operations).map Outcome.observe

end Chip8
