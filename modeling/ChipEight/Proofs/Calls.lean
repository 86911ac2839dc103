import ChipEight.Proofs.Result
import ChipEight.Session.Call

namespace ChipEight.Session

/-! What the calls of a host come down to.

Each of them asks the debugger or changes it, executes instructions one at a time, and does
nothing else.  So what those two keep, every series of calls keeps.
-/

variable {session : Session}

theorem consult_eq_ok {stop : Option Event} {asked : Session}
    (consulted : session.consult = .ok (stop, asked)) :
    ∃ debugger, asked = { session with debugger } := by
  simp only [consult, bind_eq_ok_iff] at consulted
  obtain ⟨word, -, ⟨found, debugger⟩, -, result⟩ := consulted
  cases result
  exact ⟨debugger, rfl⟩

/-- A turn asks the debugger, and then it may execute one instruction. -/
theorem turn_state (session : Session) :
    ∃ debugger, session.turn.state = { session with debugger } ∨
      session.turn.state = ({ session with debugger } : Session).advance.state := by
  cases consulted : session.consult with
  | error fault =>
      refine ⟨session.debugger, .inl ?_⟩
      simp only [turn, consulted]
      rfl
  | ok result =>
      obtain ⟨stop, asked⟩ := result
      obtain ⟨debugger, rfl⟩ := consult_eq_ok consulted
      cases stop with
      | some event =>
          refine ⟨debugger, .inl ?_⟩
          simp only [turn, consulted]
          rfl
      | none =>
          refine ⟨debugger, .inr ?_⟩
          simp only [turn, consulted]
          cases ({ session with debugger } : Session).advance <;> rfl

theorem step_state (session : Session) : session.step.state = session.advance.state := by
  unfold step
  cases session.advance <;> rfl

theorem run_state (session : Session) (budget : Int) :
    (session.run budget).state = (runFor budget.toNat session).state := by
  unfold run
  cases runFor budget.toNat session with
  | error fault left => rfl
  | ok stop after => cases stop <;> rfl

/-- A frame is a run that looks at the screen on its way. -/
theorem frameFor_state (session : Session) (count : Nat) (updated : Bool) :
    (frameFor count updated session).state = (runFor count session).state := by
  induction count generalizing session updated with
  | zero => rfl
  | succ count induction =>
      unfold frameFor runFor
      cases session.turn with
      | error fault left => rfl
      | ok stop after =>
          cases stop with
          | some event => rfl
          | none => exact induction after _

theorem runTo_state (session : Session) (address budget : Int) :
    ∃ before after, (session.runTo address budget).state =
      ((session.mapDebugger before).run budget).state.mapDebugger after := by
  unfold runTo
  by_cases known : session.debugger.hasAddress address
  · refine ⟨id, id, ?_⟩
    simp only [if_pos known]
    change _ = (session.run budget).state
    cases session.run budget <;> rfl
  · refine ⟨(·.addAddress address), (·.removeAddress address), ?_⟩
    simp only [if_neg known]
    cases (session.mapDebugger (·.addAddress address)).run budget <;> rfl

/-- What every turn keeps, a run keeps. -/
theorem runFor_keeps {P : Session → Prop} (turns : ∀ session, P session → P session.turn.state)
    (holds : P session) (count : Nat) : P (runFor count session).state := by
  induction count generalizing session with
  | zero => exact holds
  | succ count induction =>
      have turned := turns session holds
      simp only [runFor]
      cases result : session.turn with
      | error fault left =>
          rw [result] at turned
          exact turned
      | ok stop after =>
          rw [result] at turned
          cases stop with
          | some event => exact turned
          | none => exact induction turned

/-- What neither the debugger nor an instruction can break. -/
structure Invariant (P : Session → Prop) : Prop where
  debugger : ∀ session debugger, P session → P { session with debugger }
  advance : ∀ session, P session → P session.advance.state

namespace Invariant

variable {P : Session → Prop}

theorem turn (invariant : Invariant P) (holds : P session) : P session.turn.state := by
  obtain ⟨debugger, kept | advanced⟩ := session.turn_state
  · rw [kept]
    exact invariant.debugger session debugger holds
  · rw [advanced]
    exact invariant.advance _ (invariant.debugger session debugger holds)

theorem runFor (invariant : Invariant P) (holds : P session) (count : Nat) :
    P (Session.runFor count session).state :=
  runFor_keeps (fun _ => invariant.turn) holds count

theorem call (invariant : Invariant P) (holds : P session) (call : Call) : P (session.call call) := by
  cases call with
  | step =>
      change P session.step.state
      rw [step_state]
      exact invariant.advance session holds
  | run budget =>
      change P (session.run budget).state
      rw [run_state]
      exact invariant.runFor holds _
  | runTo address budget =>
      obtain ⟨before, after, moved⟩ := session.runTo_state address budget
      change P (session.runTo address budget).state
      rw [moved, run_state]
      apply invariant.debugger
      apply invariant.runFor
      exact invariant.debugger session _ holds
  | frame =>
      change P (frameFor session.cyclesPerFrame.toNat false session).state
      rw [frameFor_state]
      exact invariant.runFor holds _
  | debug change =>
      simp only [Session.call]
      cases session.debugger.change change with
      | error fault => exact holds
      | ok debugger => exact invariant.debugger session debugger holds

theorem calls (invariant : Invariant P) (holds : P session) (series : List Call) :
    P (session.calls series) := by
  induction series generalizing session with
  | nil => exact holds
  | cons call rest induction => exact induction (invariant.call holds call)

end Invariant

end ChipEight.Session
