import ChipEight.Proofs.Calls
import ChipEight.Proofs.RunOutcome

namespace ChipEight.Session

/-! Where a run that returns has come to, on any machine, its fields within their widths or not.

A turn that goes on changes the machine and the count and nothing else.  So at the end of a run
the debugger is asked what it would have been asked at the start, and only its answer is kept.
-/

variable {session after : Session} {stop : Option Event} {event : Event} {count : Nat}
  {budget : Int}

/-- What a turn that succeeds has come to. -/
inductive Turned (session : Session) : Option Event → Session → Prop where
  | stopped {word : Word} {event : Event} {debugger : Debugger}
      (peeked : session.machine.peek = .ok word)
      (consulted : session.debugger.consult session.machine session.machine.pc word.toNat =
        .ok (some event, debugger)) :
      Turned session (some event) { session with debugger }
  | passed {machine : Machine} (stepped : session.machine.step = .ok () machine) :
      Turned session none (session.moved 1 machine)

theorem turn_of_stopped {word : Word} {debugger : Debugger}
    (peeked : session.machine.peek = .ok word)
    (consulted : session.debugger.consult session.machine session.machine.pc word.toNat =
      .ok (some event, debugger)) :
    session.turn = .ok (some event) { session with debugger } := by
  simp only [turn, consult, peeked, consulted, ok_bind, pure_eq_ok]

theorem turn_of_passed {word : Word} {machine : Machine}
    (peeked : session.machine.peek = .ok word)
    (consulted : session.debugger.consult session.machine session.machine.pc word.toNat =
      .ok (none, session.debugger))
    (stepped : session.machine.step = .ok () machine) :
    session.turn = .ok none (session.moved 1 machine) := by
  simp only [turn, consult, peeked, consulted, ok_bind, pure_eq_ok, advance, stepped]
  rfl

theorem turn_turned (turned : session.turn = .ok stop after) : session.Turned stop after := by
  cases asked : session.consult with
  | error fault => simp only [turn, asked, reduceCtorEq] at turned
  | ok answer =>
      obtain ⟨found, going⟩ := answer
      simp only [turn, asked] at turned
      simp only [consult, bind_eq_ok_iff] at asked
      obtain ⟨word, peeked, ⟨answered, debugger⟩, consulted, result⟩ := asked
      cases result
      cases answered with
      | some event =>
          cases turned
          exact .stopped peeked consulted
      | none =>
          cases Debugger.consult_unchanged consulted
          simp only [advance] at turned
          cases stepped : session.machine.step with
          | error fault left => simp only [stepped, reduceCtorEq] at turned
          | ok _ machine =>
              simp only [stepped] at turned
              cases turned
              exact .passed stepped

/-- What a run of so many turns that succeeds has come to. -/
inductive Halted (session : Session) (count : Nat) : Option Event → Session → Prop where
  | spent {machine : Machine} : Halted session count none (session.moved count machine)
  | stopped {executed : Nat} {machine : Machine} {word : Word} {event : Event}
      {debugger : Debugger} (fewer : executed < count) (peeked : machine.peek = .ok word)
      (consulted : session.debugger.consult machine machine.pc word.toNat =
        .ok (some event, debugger)) :
      Halted session count (some event) { session.moved executed machine with debugger }

theorem Halted.after_one {middle : Machine}
    (halted : (session.moved 1 middle).Halted count stop after) :
    session.Halted (count + 1) stop after := by
  cases halted with
  | spent =>
      rw [moved_moved]
      exact .spent
  | stopped fewer peeked consulted =>
      rw [moved_moved]
      rw [moved_debugger] at consulted
      exact .stopped (Nat.succ_lt_succ fewer) peeked consulted

theorem runFor_halted (ran : runFor count session = .ok stop after) :
    session.Halted count stop after := by
  induction count generalizing session with
  | zero =>
      cases ran
      exact .spent
  | succ count induction =>
      simp only [runFor] at ran
      cases turned : session.turn with
      | error fault left => simp only [turned, reduceCtorEq] at ran
      | ok found middle =>
          simp only [turned] at ran
          cases turn_turned turned with
          | stopped peeked consulted =>
              cases ran
              exact .stopped (Nat.succ_pos count) peeked consulted
          | passed stepped => exact (induction ran).after_one

/-- What a run returns when its budget is used up. -/
def spentEvent (budget : Int) (after : Session) : Event :=
  ⟨.budget, some after.machine.pc, none, s!"Reached max steps ({budget})"⟩

theorem run_of_spent (ran : runFor budget.toNat session = .ok none after) :
    session.run budget = .ok (spentEvent budget after) after := by
  rw [run, ran]
  rfl

theorem run_of_stopped (ran : runFor budget.toNat session = .ok (some event) after) :
    session.run budget = .ok event after := by
  rw [run, ran]

/-- Only a run whose budget is used up says so. -/
theorem run_eq_ok (ran : session.run budget = .ok event after) :
    runFor budget.toNat session = .ok none after ∧ event = spentEvent budget after ∨
      runFor budget.toNat session = .ok (some event) after ∧ event.reason ≠ .budget := by
  unfold run at ran
  cases result : runFor budget.toNat session with
  | error fault left => simp only [result, reduceCtorEq] at ran
  | ok stop left =>
      simp only [result] at ran
      cases stop with
      | none =>
          cases ran
          exact .inl ⟨rfl, rfl⟩
      | some found =>
          cases ran
          cases runFor_halted result with
          | stopped fewer peeked consulted =>
              obtain ⟨left, cause, -⟩ := Debugger.consult_cause consulted
              exact .inr ⟨rfl, cause.not_budget⟩

end ChipEight.Session

namespace ChipEight.Machine

/-- A program of one jump, to the word behind it. -/
theorem exists_jump :
    ∃ start next : Machine, start.memory.size = memorySize ∧ start.pc = 0x200 ∧
      start.peek = .ok (.ofBytes 0x12 0x02) ∧ start.step = .ok () next ∧ next.pc = 0x202 ∧
      next.peek = .ok (.ofBytes 0 0) := by
  obtain ⟨memory, -, size, bytes⟩ := loaded_ok none [0x12, 0x02] (by simp) (by decide)
  let start : Machine := powered memory
  let next : Machine := { start with pc := 0x202, opcode := 0x1202 }
  have inside (address : Nat) (low : address < 0xFFF) : (address : Int) + 2 ≤ memory.size := by
    rw [size, memorySize]
    omega
  have low (address : Nat) : (0 : Int) ≤ address := Int.natCast_nonneg address
  have words : start.nextWord = .ofBytes 0x12 0x02 ∧ next.nextWord = .ofBytes 0 0 := by
    change Word.ofBytes (memory.byteAt 0x200) (memory.byteAt 0x201) = _ ∧
      Word.ofBytes (memory.byteAt 0x202) (memory.byteAt 0x203) = _
    rw [bytes, bytes, bytes, bytes]
    exact ⟨rfl, rfl⟩
  have peeked : start.peek = .ok (.ofBytes 0x12 0x02) :=
    words.1 ▸ peek_within (low 0x200) (inside 0x200 (by decide))
  have stepped : start.step = .ok () next := step_of_execute peeked rfl rfl rfl
  exact ⟨start, next, size, rfl, peeked, stepped, rfl,
    words.2 ▸ peek_within (low 0x202) (inside 0x202 (by decide))⟩

end ChipEight.Machine
