import ChipEight.Proofs.DrawingStep
import ChipEight.Proofs.Footprint
import ChipEight.Proofs.TemporaryBreakpoint

namespace ChipEight

/-! A frame is a run that remembers whether something was drawn.

Each of its turns is a turn of the run.  The machine tells of its last instruction alone whether
that drew, so what a frame answers is collected from the states after each of them.
-/

namespace Machine

variable {machine next : Machine} {word : Word} {count : Nat}

/-- Of so many instructions from a machine on, one clears the screen or draws on it. -/
def DrawsWithin (machine : Machine) (count : Nat) : Prop :=
  ∃ earlier < count, ∃ before word, steps earlier machine = .ok () before ∧
    before.peek = .ok word ∧ word.Draws

theorem not_drawsWithin_zero : ¬ machine.DrawsWithin 0 := by
  rintro ⟨earlier, less, -⟩
  exact Nat.not_lt_zero earlier less

theorem drawsWithin_succ (peeked : machine.peek = .ok word) (stepped : machine.step = .ok () next) :
    machine.DrawsWithin (count + 1) ↔ word.Draws ∨ next.DrawsWithin count := by
  constructor
  · rintro ⟨earlier, less, before, other, ran, fetched, draws⟩
    cases earlier with
    | zero =>
        cases ran
        cases peeked.symm.trans fetched
        exact .inl draws
    | succ earlier =>
        rw [steps_succ earlier stepped] at ran
        exact .inr ⟨earlier, Nat.lt_of_succ_lt_succ less, before, other, ran, fetched, draws⟩
  · rintro (draws | ⟨earlier, less, before, other, ran, fetched, draws⟩)
    · exact ⟨0, Nat.succ_pos count, machine, word, rfl, peeked, draws⟩
    · refine ⟨earlier + 1, Nat.succ_lt_succ less, before, other, ?_, fetched, draws⟩
      rw [steps_succ earlier stepped, ran]

end Machine

namespace Session

variable {session after : Session} {count : Nat} {updated answer : Bool}

theorem frameFor_fault (session : Session) (count : Nat) (updated : Bool) :
    (frameFor count updated session).fault? = (runFor count session).fault? := by
  induction count generalizing session updated with
  | zero => rfl
  | succ count induction =>
      unfold frameFor runFor
      cases session.turn with
      | error fault left => rfl
      | ok stop after =>
          cases stop with
          | some event => rfl
          | none => exact induction after _

theorem run_fault (session : Session) (budget : Int) :
    (session.run budget).fault? = (runFor budget.toNat session).fault? := by
  unfold run
  cases runFor budget.toNat session with
  | error fault left => rfl
  | ok stop after => cases stop <;> rfl

/-- What a frame of at most so many turns has executed when it returns, and what it answers if
something was drawn before it or not. -/
structure Framed (session : Session) (count : Nat) (updated answer : Bool) (after : Session)
    (executed : Nat) : Prop where
  most : executed ≤ count
  total : after.total = session.total + executed
  steps : Machine.steps executed session.machine = .ok () after.machine
  drawn : answer = true ↔ updated = true ∨ session.machine.DrawsWithin executed

theorem Framed.here (debugger : Debugger) :
    Framed session count updated updated { session with debugger } 0 where
  most := Nat.zero_le count
  total := rfl
  steps := rfl
  drawn := by simp [Machine.not_drawsWithin_zero]

theorem Framed.after_one {machine : Machine} {executed : Nat}
    (stepped : session.machine.step = .ok () machine)
    (framed : Framed (session.moved 1 machine) count (updated || machine.updated) answer after
      executed) :
    Framed session (count + 1) updated answer after (executed + 1) where
  most := Nat.succ_le_succ framed.most
  total := by
    rw [framed.total]
    exact Nat.add_right_comm session.total 1 executed
  steps := by
    rw [Machine.steps_succ executed stepped]
    exact framed.steps
  drawn := by
    obtain ⟨word, instruction, executed, peeked, -⟩ := Machine.step_eq_ok stepped
    rw [framed.drawn, Bool.or_eq_true, Machine.step_updated_iff peeked stepped,
      Machine.drawsWithin_succ peeked stepped, or_assoc]
    rfl

/-- By induction on the turns, with what was drawn in those before carried along. -/
theorem frameFor_framed (framed : frameFor count updated session = .ok answer after) :
    ∃ executed, Framed session count updated answer after executed := by
  induction count generalizing session updated with
  | zero =>
      cases framed
      exact ⟨0, .here _⟩
  | succ count induction =>
      simp only [frameFor] at framed
      cases turned : session.turn with
      | error fault left => simp only [turned, reduceCtorEq] at framed
      | ok stop middle =>
          simp only [turned] at framed
          cases turn_turned turned with
          | stopped peeked consulted =>
              cases framed
              exact ⟨0, .here _⟩
          | passed stepped =>
              obtain ⟨executed, rest⟩ := induction framed
              exact ⟨executed + 1, rest.after_one stepped⟩

/-- A frame is a run of as many cycles as a frame has, with the same state and the same fault.  It
answers whether one of the instructions it has executed has drawn. -/
theorem frame_agrees_with_run (session : Session) :
    let ran := session.run session.cyclesPerFrame
    session.frame.state = ran.state ∧ session.frame.fault? = ran.fault? ∧
      ∀ answer after, session.frame = .ok answer after →
        ∃ executed : Nat, executed ≤ session.cyclesPerFrame.toNat ∧
          after.total = session.total + executed ∧
          Machine.steps executed session.machine = .ok () after.machine ∧
          (answer = true ↔ session.machine.DrawsWithin executed) := by
  intro ran
  refine ⟨?_, ?_, ?_⟩
  · rw [run_state]
    exact frameFor_state session _ false
  · rw [run_fault]
    exact frameFor_fault session _ false
  · intro answer after framed
    obtain ⟨executed, framed⟩ := frameFor_framed framed
    refine ⟨executed, framed.most, framed.total, framed.steps, ?_⟩
    simpa using framed.drawn

/-- A sprite without rows counts as drawn, although no pixel has changed.  The frame stops before
the opcode that follows it. -/
theorem frame_draws_nothing :
    ∃ session after : Session, session.cyclesPerFrame = 10 ∧ session.frame = .ok true after ∧
      session.machine.DrawsWithin 1 ∧ after.machine.screen = session.machine.screen ∧
      after.total = session.total + 1 ∧ (session.run 10).state = after ∧
      (session.run 10).fault? = none := by
  obtain ⟨memory, -, size, bytes⟩ :=
    Machine.loaded_ok none [0xD0, 0x00] (by simp) (by decide)
  let machine : Machine := Machine.powered memory
  have formed : machine.WellFormed := Machine.powered_wellFormed size
  have word : machine.nextWord = .ofBytes 0xD0 0x00 :=
    Machine.nextWord_of_bytes (rfl : machine.pc = (0x200 : Nat)) (bytes _) (bytes _)
  have family : machine.nextWord.family.val = 0xD := by
    rw [word]
    rfl
  have within : machine.index + machine.spriteRows machine.nextWord ≤ 0x1000 := by
    rw [word]
    exact (by decide : (0 : Int) + (0 : Nat) ≤ 0x1000)
  have stepped := (formed.step_draw_iff family).2 ⟨(by decide : (0x200 : Int) ≤ 0xFFE), within, rfl⟩
  rw [word] at stepped
  let next : Machine :=
    ((machine.fetched (.ofBytes 0xD0 0x00)).withSprite (.ofBytes 0xD0 0x00)).tick
  have peeked : machine.peek = .ok (.ofBytes 0xD0 0x00) :=
    Machine.peek_of_bytes (rfl : machine.pc = (0x200 : Nat)) size (by decide) (bytes _) (bytes _)
  have nextPeeked : next.peek = .ok (.ofBytes 0 0) :=
    Machine.peek_of_bytes (rfl : next.pc = (0x202 : Nat)) size (by decide) (bytes _) (bytes _)
  let session : Session :=
    { loadsFont := false, cyclesPerFrame := 10, machine, debugger := { opcodes := [0] }, total := 0,
      program := [] }
  let stop : Event :=
    ⟨.opcode, some 0x202, some 0, s!"Opcode {Text.dollar 0} at {Text.dollar 0x202}"⟩
  let after : Session :=
    { session.moved 1 next with debugger := { opcodes := [0], lastEvent := some stop } }
  have first : session.turn = .ok none (session.moved 1 next) := turn_of_passed peeked rfl stepped
  have second : (session.moved 1 next).turn = .ok (some stop) after :=
    turn_of_stopped nextPeeked rfl
  have framed : session.frame = .ok true after := by
    change frameFor 10 false session = _
    simp only [frameFor, first, second]
    rfl
  obtain ⟨state, fault, drawn⟩ := frame_agrees_with_run session
  obtain ⟨executed, -, total, -, told⟩ := drawn true after framed
  rw [framed] at state fault
  obtain rfl : executed = 1 := by
    change 1 = 0 + executed at total
    omega
  exact ⟨session, after, rfl, framed, told.1 rfl, rfl, rfl, state.symm, fault.symm⟩

end Session

end ChipEight
