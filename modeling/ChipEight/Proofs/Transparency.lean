import ChipEight.Proofs.Calls
import ChipEight.Proofs.LoadedProgram
import ChipEight.Proofs.Starting

namespace ChipEight

/-! The debugger never touches the machine.

Whatever a host asks of a session, its machine stands where as many steps lead from the
start as the session has counted.  Only the execution of an instruction writes the machine
or the count, and it writes both or, where a fault leaves no trace, neither.
-/

namespace Machine

variable {origin : Machine}

/-- No fault on the way from a machine leaves a trace. -/
def Traceless (origin : Machine) : Prop :=
  ∀ count machine, steps count origin = .ok () machine →
    ∀ fault left, machine.step = .error fault left → left = machine

theorem powered_traceless {image : Memory} (size : image.size = memorySize) :
    (powered image).Traceless := by
  intro count machine ran fault left failed
  exact ((Running.powered size).steps ran).step_error failed

end Machine

namespace Session

variable {origin : Machine} {session : Session}

/-- The machine is where the counted instructions lead. -/
def Follows (origin : Machine) (session : Session) : Prop :=
  Machine.steps session.total origin = .ok () session.machine

theorem Follows.invariant (traceless : origin.Traceless) : Invariant (Follows origin) where
  debugger := fun session debugger follows => follows
  advance := by
    intro session follows
    cases stepped : session.machine.step with
    | error fault left =>
        cases traceless _ _ follows _ _ stepped
        simp only [advance, stepped]
        exact follows
    | ok _ after =>
        simp only [advance, stepped]
        change Machine.steps (session.total + 1) origin = .ok () after
        rw [Machine.steps_add follows, Machine.steps_one, stepped]

theorem Follows.calls (traceless : origin.Traceless) (follows : session.Follows origin)
    (series : List Call) : (session.calls series).Follows origin :=
  (Follows.invariant traceless).calls follows series

/-- Nothing but steps moves a loaded machine: after any series of calls, failing ones among them, it
is where as many steps as the session has counted bring it to. -/
theorem machine_follows_count (loadsFont : Bool) (cyclesPerFrame : Int) (program : List UInt8)
    (positive : 1 ≤ cyclesPerFrame) (room : program.length ≤ 3584) :
    ∃ started fresh, start loadsFont cyclesPerFrame = .ok started ∧
      started.loadProgram program = .ok fresh ∧ fresh.total = 0 ∧
      ∀ series, Machine.steps (fresh.calls series).total fresh.machine =
        .ok () (fresh.calls series).machine := by
  obtain ⟨started, fresh, image, begun, programmed, powered, size, zero⟩ :=
    started_powered loadsFont positive room
  have traceless : fresh.machine.Traceless := by
    rw [powered]
    exact Machine.powered_traceless size
  have follows : fresh.Follows fresh.machine := by
    rw [Follows, zero]
    rfl
  exact ⟨started, fresh, begun, programmed, zero, follows.calls traceless⟩

/-- A program that calls itself, stopped once on the way. -/
theorem calling_follows_count :
    (1 : Int) ≤ 10 ∧ [(0x22 : UInt8), 0x00].length ≤ 3584 ∧
      ∃ started fresh, start true 10 = .ok started ∧
        started.loadProgram [0x22, 0x00] = .ok fresh ∧
        Machine.steps (fresh.calls [.debug .request, .run 5, .step, .frame]).total fresh.machine =
          .ok () (fresh.calls [.debug .request, .run 5, .step, .frame]).machine := by
  have positive : (1 : Int) ≤ 10 := by decide
  have room : [(0x22 : UInt8), 0x00].length ≤ 3584 := by decide
  obtain ⟨started, fresh, begun, programmed, -, follows⟩ :=
    machine_follows_count true 10 [0x22, 0x00] positive room
  exact ⟨positive, room, started, fresh, begun, programmed, follows _⟩

end Session

end ChipEight
