import ChipEight.Proofs.Consulting
import ChipEight.Proofs.Loading
import ChipEight.Proofs.Step
import ChipEight.Session.Run

namespace ChipEight

/-! Where a run stops.

A run follows the states that steps lead to from its first one.  In each of them the word is
fetched, the debugger asked and the instruction executed, in this order, and the first of
the three that does not go on ends the run.  The debugger changes only when it stops, so
what it is asked in a later state is what it would have been asked at the start.
-/

def Debugger.Matches (debugger : Debugger) (machine : Machine) : Prop :=
  debugger.StopsAt machine machine.pc machine.nextWord.toNat

namespace Session

variable {session : Session} {machine : Machine} {count : Nat} {fault : Fault}

/-- The session with so many instructions more executed, on the machine they have led to. -/
def moved (session : Session) (executed : Nat) (machine : Machine) : Session :=
  { session with machine, total := session.total + executed }

@[simp] theorem moved_debugger (executed : Nat) :
    (session.moved executed machine).debugger = session.debugger := rfl

@[simp] theorem moved_machine (executed : Nat) :
    (session.moved executed machine).machine = machine := rfl

theorem moved_moved (executed : Nat) (middle : Machine) :
    (session.moved 1 middle).moved executed machine = session.moved (executed + 1) machine := by
  simp only [moved, Nat.add_assoc, Nat.add_comm 1]

/-- How a run ends in the state it has come to, after so many instructions of the number it
may execute. -/
inductive Ending (session : Session) (count executed : Nat) (machine : Machine) :
    Outcome Session (Option Event) → Prop where
  | beyond (more : executed < count) (outside : 0xFFE < machine.pc) :
      Ending session count executed machine
        (.error (.fetchOutsideMemory machine.pc) (session.moved executed machine))
  | stopped (more : executed < count) (within : machine.pc ≤ 0xFFE)
      (matching : session.debugger.Matches machine) {event : Event} {debugger : Debugger}
      (consulted : session.debugger.consult machine machine.pc machine.nextWord.toNat =
        .ok (some event, debugger)) :
      Ending session count executed machine
        (.ok (some event) { session.moved executed machine with debugger })
  | failed (more : executed < count) (within : machine.pc ≤ 0xFFE)
      (passes : ¬ session.debugger.Matches machine) {fault : Fault} {left : Machine}
      (step : machine.step = .error fault left) :
      Ending session count executed machine (.error fault (session.moved executed left))
  | spent (all : executed = count) :
      Ending session count executed machine (.ok none (session.moved executed machine))

/-- The states that a run leaves behind. -/
def Passed (session : Session) (executed : Nat) : Prop :=
  ∀ earlier < executed, ∀ before, Machine.steps earlier session.machine = .ok () before →
    before.pc ≤ 0xFFE ∧ ¬ session.debugger.Matches before

theorem turn_beyond (formed : session.machine.WellFormed) (outside : 0xFFE < session.machine.pc) :
    session.turn = .error (.fetchOutsideMemory session.machine.pc) session := by
  simp only [turn, consult, formed.peek_eq, if_pos outside, error_bind]

theorem consult_within (formed : session.machine.WellFormed) (within : session.machine.pc ≤ 0xFFE)
    {stop : Option Event} {debugger : Debugger}
    (consulted : session.debugger.consult session.machine session.machine.pc
      session.machine.nextWord.toNat = .ok (stop, debugger)) :
    session.consult = .ok (stop, { session with debugger }) := by
  simp only [consult, formed.peek_eq, if_neg (Int.not_lt.2 within), ok_bind, consulted, pure_eq_ok]

theorem turn_stopped (formed : session.machine.WellFormed) (within : session.machine.pc ≤ 0xFFE)
    {event : Event} {debugger : Debugger}
    (consulted : session.debugger.consult session.machine session.machine.pc
      session.machine.nextWord.toNat = .ok (some event, debugger)) :
    session.turn = .ok (some event) { session with debugger } := by
  simp only [turn, consult_within formed within consulted]

theorem turn_passed (formed : session.machine.WellFormed) (within : session.machine.pc ≤ 0xFFE)
    (passes : ¬ session.debugger.Matches session.machine) :
    session.turn =
      match session.machine.step with
      | .error fault left => .error fault (session.moved 0 left)
      | .ok () after => .ok none (session.moved 1 after) := by
  have consulted := consult_within formed within (Debugger.consult_passes formed passes)
  simp only [turn, consulted, advance]
  cases session.machine.step <;> rfl

theorem Ending.after_one {middle : Machine} {executed : Nat}
    {outcome : Outcome Session (Option Event)}
    (ending : Ending (session.moved 1 middle) count executed machine outcome) :
    Ending session (count + 1) (executed + 1) machine outcome := by
  cases ending with
  | beyond more outside =>
      rw [moved_moved]
      exact .beyond (Nat.succ_lt_succ more) outside
  | stopped more within matching consulted =>
      rw [moved_moved]
      rw [moved_debugger] at matching consulted
      exact .stopped (Nat.succ_lt_succ more) within matching consulted
  | failed more within passes step =>
      rw [moved_moved]
      rw [moved_debugger] at passes
      exact .failed (Nat.succ_lt_succ more) within passes step
  | spent all =>
      rw [moved_moved]
      exact .spent (congrArg (· + 1) all)

theorem Passed.succ {after : Machine} {executed : Nat} (stepped : session.machine.step = .ok () after)
    (within : session.machine.pc ≤ 0xFFE) (passes : ¬ session.debugger.Matches session.machine)
    (passed : (session.moved 1 after).Passed executed) : session.Passed (executed + 1) := by
  intro earlier less before ran
  cases earlier with
  | zero =>
      cases ran
      exact ⟨within, passes⟩
  | succ earlier =>
      simp only [Machine.steps, stepped] at ran
      exact passed earlier (Nat.lt_of_succ_lt_succ less) before ran

theorem runFor_ends (formed : session.machine.WellFormed) (count : Nat) :
    ∃ executed machine, Machine.steps executed session.machine = .ok () machine ∧
      session.Passed executed ∧ Ending session count executed machine (runFor count session) := by
  have none : session.Passed 0 := fun earlier less => absurd less (Nat.not_lt_zero earlier)
  induction count generalizing session with
  | zero => exact ⟨0, session.machine, rfl, none, .spent rfl⟩
  | succ count induction =>
      by_cases outside : 0xFFE < session.machine.pc
      · refine ⟨0, session.machine, rfl, none, ?_⟩
        simp only [runFor, turn_beyond formed outside]
        exact .beyond (Nat.succ_pos count) outside
      have within := Int.not_lt.1 outside
      by_cases matching : session.debugger.Matches session.machine
      · obtain ⟨event, debugger, consulted, -⟩ := Debugger.consult_stops formed matching
        refine ⟨0, session.machine, rfl, none, ?_⟩
        simp only [runFor, turn_stopped formed within consulted]
        exact .stopped (Nat.succ_pos count) within matching consulted
      have turned := turn_passed formed within matching
      cases stepped : session.machine.step with
      | error fault left =>
          refine ⟨0, session.machine, rfl, none, ?_⟩
          simp only [runFor, turned, stepped]
          exact .failed (Nat.succ_pos count) within matching stepped
      | ok _ after =>
          obtain ⟨executed, machine, ran, passed, ending⟩ :=
            @induction (session.moved 1 after) (formed.step stepped)
              fun earlier less => absurd less (Nat.not_lt_zero earlier)
          refine ⟨executed + 1, machine, ?_, passed.succ stepped within matching, ?_⟩
          · simp only [Machine.steps, stepped]
            exact ran
          · simp only [runFor, turned, stepped]
            exact ending.after_one

/-- A run ends where the first of four things happens: the program counter is beyond the last word,
something is to be stopped at, the step fails, or the budget is spent.  The session has counted the
steps before that, and its machine is the one they lead to. -/
theorem run_stops_at_first (session : Session) (formed : session.machine.WellFormed) (budget : Int) :
    ∃ executed machine, Machine.steps executed session.machine = .ok () machine ∧
      session.Passed executed ∧
      (executed < budget ∧ 0xFFE < machine.pc ∧
          session.run budget =
            .error (.fetchOutsideMemory machine.pc) (session.moved executed machine) ∨
        executed < budget ∧ machine.pc ≤ 0xFFE ∧ session.debugger.Matches machine ∧
          (∃ event debugger,
            session.run budget = .ok event { session.moved executed machine with debugger } ∧
              event.address = some machine.pc ∧
              event.opcode = some (machine.nextWord.toNat : Int) ∧
              session.debugger.consult machine machine.pc machine.nextWord.toNat =
                .ok (some event, debugger) ∧
              debugger.lastEvent = some event) ∨
        executed < budget ∧ machine.pc ≤ 0xFFE ∧ ¬ session.debugger.Matches machine ∧
          (∃ fault left, machine.step = .error fault left ∧
            session.run budget = .error fault (session.moved executed left)) ∨
        executed = max 0 budget ∧
          session.run budget =
            .ok ⟨.budget, some machine.pc, none, s!"Reached max steps ({budget})"⟩
              (session.moved executed machine)) := by
  obtain ⟨executed, machine, ran, passed, ending⟩ := runFor_ends formed budget.toNat
  refine ⟨executed, machine, ran, passed, ?_⟩
  obtain ⟨outcome, result⟩ : ∃ outcome, runFor budget.toNat session = outcome := ⟨_, rfl⟩
  rw [result] at ending
  simp only [run, result]
  cases ending with
  | beyond more outside => exact .inl ⟨by omega, outside, rfl⟩
  | stopped more within matching consulted =>
      obtain ⟨_, _, same, address, opcode, last⟩ :=
        Debugger.consult_stops (formed.steps ran) matching
      cases consulted.symm.trans same
      exact .inr (.inl ⟨by omega, within, matching, _, _, rfl, address, opcode, consulted, last⟩)
  | failed more within passes step =>
      exact .inr (.inr (.inl ⟨by omega, within, passes, _, _, step, rfl⟩))
  | spent all => exact .inr (.inr (.inr ⟨by omega, rfl⟩))

/-- Beyond the last word of memory the request to stop is not even asked for. -/
theorem run_beyond_keeps_request :
    ∃ session : Session, session.machine.WellFormed ∧ session.machine.pc = 0x1000 ∧
      session.debugger.interrupt = true ∧
      session.run 5 = .error (.fetchOutsideMemory 0x1000) session := by
  let session : Session :=
    { loadsFont := false
      cyclesPerFrame := 1
      machine := { Machine.initial with pc := 0x1000 }
      debugger := { interrupt := true }
      total := 0
      program := [] }
  have formed : session.machine.WellFormed :=
    { Machine.initial_wellFormed with pc := by decide }
  refine ⟨session, formed, rfl, rfl, ?_⟩
  obtain ⟨executed, machine, ran, passed, ending⟩ := run_stops_at_first session formed 5
  cases executed with
  | succ executed =>
      have within : session.machine.pc ≤ 0xFFE := (passed 0 (Nat.succ_pos _) _ rfl).1
      exact absurd within (by decide)
  | zero =>
      cases ran
      rcases ending with ⟨-, -, result⟩ | ⟨-, within, -⟩ | ⟨-, within, -⟩ | ⟨all, -⟩
      · exact result
      · exact absurd within (by decide)
      · exact absurd within (by decide)
      · exact absurd all (by decide)

end Session

end ChipEight
