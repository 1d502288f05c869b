import Chip8.Console
import Chip8.Proofs.Loads
import Chip8.Proofs.Replay

/-! # The reserved area

No program reaches the cells before the place for programs, so they are zero, and
a zero opcode does nothing. A machine that gets there, around the end of memory or
by a jump, passes on to the place for programs and arrives as it was. -/

namespace Chip8

universe u

namespace Machine

def ReservedIsBlank (machine : Machine) : Prop :=
  ∀ location < 0x200, machine.memory.read location = 0

theorem reservedIsBlank_performAll (operations : List Operation) :
    (initial.performAll operations).ReservedIsBlank := by
  intro location reserved
  rw [read_performAll, List.findSome?_eq_none_iff.mpr fun program _ =>
    byteAt?_reserved reserved program]
  exact Memory.read_zeroed location

theorem ReservedIsBlank.step {machine : Machine} (blank : machine.ReservedIsBlank) :
    machine.step.machine.ReservedIsBlank := by
  intro location reserved
  rw [memory_step]
  exact blank location reserved

/-! ## Passing through -/

variable {machine : Machine}

theorem fetch_of_reservedIsBlank (blank : machine.ReservedIsBlank)
    (reserved : machine.pc.toNat + 1 < 0x200) : machine.fetch = .ok ⟨0⟩ := by
  have inside : machine.pc.toNat + 1 < memorySize := by
    rw [memorySize]
    omega
  rw [fetch_of_inside inside, blank _ (by omega), blank _ reserved]
  rfl

/-- As long as both bytes of its opcode are reserved, a step only moves on. -/
theorem run_of_reservedIsBlank (blank : machine.ReservedIsBlank) (count : Nat)
    (reserved : machine.pc.toNat + 2 * count ≤ 0x200) :
    let passing := machine.run count
    passing.machine = machine.goTo (.ofNat (machine.pc.toNat + 2 * count)) ∧
      passing.fault? = none ∧ passing.signals = [] ∧
      journal passing.events = List.replicate count .nop := by
  induction count generalizing machine with
  | zero =>
      have unmoved : machine.goTo (.ofNat machine.pc.toNat) = machine := by
        rw [UInt16.ofNat_toNat]
        rfl
      exact ⟨unmoved.symm, rfl, rfl, rfl⟩
  | succ count induction =>
      have fetched := fetch_of_reservedIsBlank blank (by omega)
      have next : machine.advance.pc.toNat = machine.pc.toNat + 2 := by
        rw [advance_eq_goTo, pc_goTo, toNat_following]
        omega
      have target : machine.advance.pc.toNat + 2 * count =
          machine.pc.toNat + 2 * (count + 1) := by omega
      have blankNext : machine.advance.ReservedIsBlank := blank
      rcases induction blankNext (by omega) with ⟨reached, succeeded, silent, nops⟩
      have passing : machine.run (count + 1) =
          .reporting (.fetched machine.pc ⟨0⟩) (machine.advance.run count) :=
        run_succ_of_fetched fetched count
      rw [passing]
      refine ⟨?_, succeeded, silent, ?_⟩
      · rw [Outcome.machine_reporting, reached, target]
        rfl
      · rw [Outcome.events_reporting, journal_fetched, nops]
        rfl

/-- The last of these steps ends at the place for programs or just before it. -/
theorem pc_run_of_reservedIsBlank (blank : machine.ReservedIsBlank)
    (reserved : machine.pc.toNat < 0x200) :
    (machine.run ((0x200 - machine.pc.toNat) / 2)).machine.pc =
      if machine.pc.toNat % 2 = 0 then 0x200 else 0x1FF := by
  let steps := (0x200 - machine.pc.toNat) / 2
  have reached := (run_of_reservedIsBlank blank steps (by omega)).1
  rw [reached, pc_goTo]
  split
  · rw [show machine.pc.toNat + 2 * steps = 0x200 by omega]
    rfl
  · rw [show machine.pc.toNat + 2 * steps = 0x1FF by omega]
    rfl

end Machine

theorem Console.absorb_run_of_reservedIsBlank {State : Type u}
    (peripheral : Peripheral State) {console : Console State}
    (blank : console.machine.ReservedIsBlank) (count : Nat)
    (reserved : console.machine.pc.toNat + 2 * count ≤ 0x200) :
    console.absorb peripheral (console.machine.run count) =
      ⟨console.machine.goTo (.ofNat (console.machine.pc.toNat + 2 * count)),
        console.state⟩ := by
  rcases Machine.run_of_reservedIsBlank blank count reserved with ⟨reached, _, silent, _⟩
  rw [absorb, reached, silent, Peripheral.receiveAll_nil]

/-- A machine whose program counter is reserved takes half as many steps as there
are reserved cells before it, all without an effect on the machine, apart from its
program counter, and on the peripheral. They end at the place for programs, or just
before it if the program counter is odd. So a program that runs over the end of
memory is back at its first instruction after 256 steps, and not earlier. -/
theorem Console.reserved_area_is_passed {State : Type u} (peripheral : Peripheral State)
    (state : State) (operations : List Operation) :
    let console := (initial state).performAll peripheral operations
    let machine := console.machine
    let pc := machine.pc.toNat
    let steps := (0x200 - pc) / 2
    (pc < 0x200 →
      (∀ count ≤ steps,
        let passing := machine.run count
        passing.fault? = none ∧ passing.signals = [] ∧
          journal passing.events = List.replicate count .nop ∧
          console.absorb peripheral passing =
            ⟨machine.goTo (.ofNat (pc + 2 * count)), console.state⟩) ∧
        (machine.run steps).machine.pc = if pc % 2 = 0 then 0x200 else 0x1FF) ∧
    (machine.pc = 0xFFE → machine.step.machine.pc = following machine.pc →
      let wrapped := console.absorb peripheral machine.step
      let passing := wrapped.machine.run 256
      wrapped.machine.pc = 0 ∧ passing.fault? = none ∧
        wrapped.absorb peripheral passing =
          ⟨wrapped.machine.goTo programStart, wrapped.state⟩ ∧
        ∀ count < 256, (wrapped.machine.run count).machine.pc ≠ programStart) := by
  intro console machine pc steps
  have blank : machine.ReservedIsBlank := by
    rw [show machine = _ from machine_performAll peripheral _ operations]
    exact Machine.reservedIsBlank_performAll operations
  constructor
  · intro reserved
    have half : steps = (0x200 - pc) / 2 := rfl
    refine ⟨?_, Machine.pc_run_of_reservedIsBlank blank reserved⟩
    intro count enough passing
    have before : pc + 2 * count ≤ 0x200 := by omega
    rcases Machine.run_of_reservedIsBlank blank count before with
      ⟨_, succeeded, silent, nops⟩
    exact ⟨succeeded, silent, nops,
      absorb_run_of_reservedIsBlank peripheral blank count before⟩
  · intro last advanced wrapped passing
    have zero : wrapped.machine.pc = 0 := by
      rw [show wrapped.machine.pc = following machine.pc from advanced, last]
      rfl
    have blankStill : wrapped.machine.ReservedIsBlank := blank.step
    have before (count : Nat) (few : count ≤ 256) :
        wrapped.machine.pc.toNat + 2 * count ≤ 0x200 := by
      rw [zero, UInt16.toNat_zero]
      omega
    have passes (count : Nat) (few : count ≤ 256) :=
      Machine.run_of_reservedIsBlank blankStill count (before count few)
    have arrives := absorb_run_of_reservedIsBlank peripheral blankStill 256
      (before 256 (Nat.le_refl _))
    refine ⟨zero, (passes 256 (Nat.le_refl _)).2.1, ?_, ?_⟩
    · rw [arrives, zero]
      rfl
    · intro count few arrived
      rw [(passes count (Nat.le_of_lt few)).1, Machine.pc_goTo, zero] at arrived
      have value := congrArg UInt16.toNat arrived
      simp only [programStart, UInt16.toNat_ofNat', UInt16.reduceToNat] at value
      omega

/-- A jump to the last two cells, from where a step goes around the end of memory,
and a jump into the reserved area at an odd location. -/
theorem Console.reserved_area_is_passed_after_jumps :
    let after (target : Address) := (initial Recording.empty).performAll
      Recording.peripheral [.load [0x60, 0x2A], .execute (.jump target)]
    let last := after ⟨0xFFE⟩
    let wrapped := last.absorb Recording.peripheral last.machine.step
    let odd := after ⟨0x0FD⟩
    (last.machine.pc = 0xFFE ∧
      last.machine.step.machine.pc = following last.machine.pc ∧
      wrapped.absorb Recording.peripheral (wrapped.machine.run 256) =
        ⟨wrapped.machine.goTo programStart, wrapped.state⟩) ∧
      odd.machine.pc.toNat < 0x200 ∧ (odd.machine.run 129).machine.pc = 0x1FF := by
  intro after last wrapped odd
  have passing (target : Address) := reserved_area_is_passed Recording.peripheral
    Recording.empty [.load [0x60, 0x2A], .execute (.jump target)]
  have wraps := (passing ⟨0xFFE⟩).2 (by decide +kernel) (by decide +kernel)
  have entry : odd.machine.pc.toNat = 0x0FD := by decide +kernel
  have reserved : odd.machine.pc.toNat < 0x200 := by omega
  have stops := ((passing ⟨0x0FD⟩).1 reserved).2
  refine ⟨⟨by decide +kernel, by decide +kernel, wraps.2.2.1⟩, reserved, ?_⟩
  dsimp only [odd, after] at entry ⊢
  rw [entry, if_neg (by decide), show (0x200 - 0x0FD) / 2 = 129 from rfl] at stops
  exact stops

end Chip8
