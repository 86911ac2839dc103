import ChipEight.Proofs.Shape
import ChipEight.Proofs.TemporaryBreakpoint

namespace ChipEight

/-! When a run to an address tells that it has come there.

It does so where the breakpoint of its own has stopped it.  A run whose budget is used up as it
arrives is not asked about the breakpoint any more, and an address of more than sixteen bits is
compared as it was given, although the breakpoint stands at its low word.
-/

theorem Debugger.Cause.address_iff {debugger left : Debugger} {machine : Machine} {pc opcode : Int}
    {reason : Reason} {message : String}
    (cause : Cause debugger machine pc opcode reason message left)
    (calm : debugger.interrupt = false) (free : debugger.stepMode = false) :
    reason = .address ↔ pc ∈ debugger.addresses := by
  cases cause with
  | interrupt requested => cases calm.symm.trans requested
  | step _ stepping => cases free.symm.trans stepping
  | address _ _ listed => exact iff_of_true rfl listed
  | opcode _ _ unlisted _ => exact iff_of_false (by simp) unlisted
  | condition _ _ unlisted _ _ => exact iff_of_false (by simp) unlisted

namespace Session

variable {session after : Session} {address budget : Int} {answer : Bool} {event : Event}

theorem Invariant.memory (memory : Memory) :
    Invariant fun session => session.machine.memory = memory where
  debugger := fun _ _ same => same
  advance := by
    intro session same
    have kept := session.machine.step_memory
    unfold Session.advance
    cases stepped : session.machine.step with
    | error fault left =>
        rw [stepped] at kept
        exact Eq.trans kept same
    | ok _ machine =>
        rw [stepped] at kept
        exact Eq.trans kept same

theorem runTo_memory (sought : session.runTo address budget = .ok answer after) :
    after.machine.memory = session.machine.memory := by
  have kept := (Invariant.memory session.machine.memory).call rfl (.runTo address budget)
  simp only [call, sought] at kept
  exact kept

theorem runTo_of_run
    (ran : (session.mapDebugger (·.addAddress address)).run budget = .ok event after) :
    session.runTo address budget =
      .ok (reports address event) (after.withAddresses session.debugger.addresses) := by
  rw [runTo_eq_map, ran]
  rfl

theorem reports_iff :
    reports address event = true ↔ event.reason = .address ∧ event.address = some address := by
  simp [reports]

/-- Where a run to an address has come to when it returns, and with which answer. -/
inductive Sought (session : Session) (address budget : Int) (answer : Bool) (after : Session) :
    Prop where
  | spent (all : after.total = session.total + budget.toNat) (silent : answer = false)
  | stopped (fewer : after.total < session.total + budget.toNat) (low : 0 ≤ after.machine.pc)
      (inside : after.machine.pc + 2 ≤ after.machine.memory.size)
      (told : answer = true ↔
        after.machine.pc ∈ (session.debugger.addAddress address).addresses ∧
          after.machine.pc = address)

/-- With nothing else pending, only a breakpoint can stop a run at the address sought. -/
theorem runTo_sought (calm : session.debugger.interrupt = false)
    (free : session.debugger.stepMode = false)
    (sought : session.runTo address budget = .ok answer after) :
    session.Sought address budget answer after := by
  rw [runTo_eq_map] at sought
  cases ran : (session.mapDebugger (·.addAddress address)).run budget with
  | error fault left => simp only [ran, Outcome.map, reduceCtorEq] at sought
  | ok event last =>
      simp only [ran, Outcome.map, EStateM.Result.ok.injEq] at sought
      obtain ⟨rfl, rfl⟩ := sought
      obtain ⟨spent, rfl⟩ | ⟨stopped, -⟩ := run_eq_ok ran
      · cases runFor_halted spent with
        | spent => exact .spent rfl rfl
      · cases runFor_halted stopped with
        | stopped fewer peeked consulted =>
            obtain ⟨left, cause, place, -, -⟩ := Debugger.consult_cause consulted
            obtain ⟨low, inside, -⟩ := Machine.peek_eq_ok peeked
            refine .stopped (Nat.add_lt_add_left fewer _) low inside ?_
            rw [reports_iff, cause.address_iff calm free, place, Option.some.injEq]
            exact Iff.rfl

/-- A search for an address answers that it has arrived if it stops before its budget is spent and
the program counter is the address as it was given.

What it stops at is the low word of the address.  The answer is the right one except where the
machine has come there with the last of its steps, or where the address was no word. -/
theorem runTo_answer_iff (size : session.machine.memory.size = Machine.memorySize)
    (calm : session.debugger.interrupt = false) (free : session.debugger.stepMode = false)
    (positive : 0 ≤ budget) (sought : session.runTo address budget = .ok answer after) :
    (answer = true ↔
        (after.total : Int) < session.total + budget ∧ after.machine.pc = address) ∧
      ((answer = true ↔ after.machine.pc = address % 65536) ↔
        ¬ (after.machine.pc = address % 65536 ∧
          ((after.total : Int) = session.total + budget ∨ address % 65536 ≠ address))) := by
  have same := runTo_memory sought
  cases runTo_sought calm free sought with
  | spent all silent =>
      subst silent
      have total : (after.total : Int) = session.total + budget := by omega
      simp [total]
  | stopped fewer low inside told =>
      rw [same, size, Machine.memorySize] at inside
      have total : (after.total : Int) < session.total + budget := by omega
      have listed (here : after.machine.pc = address) :
          after.machine.pc ∈ (session.debugger.addAddress address).addresses := by
        rw [Debugger.addAddress, Debugger.mem_insertAscending, Bits.lowWord]
        omega
      have answered : answer = true ↔ after.machine.pc = address :=
        told.trans ⟨And.right, fun here => ⟨listed here, here⟩⟩
      rw [answered]
      omega

/-- The run comes to the address with one instruction, and the opcode there is one to stop at
too. -/
theorem runTo_answers_beside_opcode :
    ∃ (session after : Session) (answer : Bool),
      session.machine.memory.size = Machine.memorySize ∧ session.debugger.interrupt = false ∧
      session.debugger.stepMode = false ∧ session.debugger.opcodes = [0] ∧ (0 : Int) ≤ 5 ∧
      session.runTo 0x202 5 = .ok answer after ∧ answer = true ∧ after.machine.pc = 0x202 := by
  obtain ⟨start, next, size, pc, peeked, stepped, nextPc, nextPeeked⟩ := Machine.exists_jump
  let session : Session :=
    { loadsFont := false, cyclesPerFrame := 1, machine := start, debugger := { opcodes := [0] },
      total := 0, program := [] }
  let seeking : Session := session.mapDebugger (·.addAddress 0x202)
  let stop : Event := ⟨.address, some 0x202, some 0, "Breakpoint at " ++ Text.dollar 0x202⟩
  have passed : seeking.debugger.consult start start.pc 0x1202 = .ok (none, seeking.debugger) := by
    rw [pc]
    rfl
  let arrived : Session := seeking.moved 1 next
  let last : Session := arrived.mapDebugger ({ · with lastEvent := some stop })
  have stopped : seeking.debugger.consult next next.pc 0 = .ok (some stop, last.debugger) := by
    rw [nextPc]
    rfl
  have first : seeking.turn = .ok none arrived := turn_of_passed peeked passed stepped
  have second : arrived.turn = .ok (some stop) last := turn_of_stopped nextPeeked stopped
  have ran : seeking.run 5 = .ok stop last := by
    apply run_of_stopped
    change runFor 5 seeking = _
    simp only [runFor, first, second]
  have sought := runTo_of_run ran
  have positive : (0 : Int) ≤ 5 := by decide
  have told := (runTo_answer_iff size rfl rfl positive sought).1
  have fewer : (1 : Int) < 0 + 5 := by decide
  exact ⟨session, _, _, size, rfl, rfl, rfl, positive, sought, told.2 ⟨fewer, nextPc⟩, nextPc⟩

/-- The answer is wrong for an address beyond sixteen bits, for the last instruction of a budget
and for an empty budget. -/
theorem runTo_denies_arrival :
    ∃ session : Session, session.machine.memory.size = Machine.memorySize ∧
      session.debugger.interrupt = false ∧ session.debugger.stepMode = false ∧
      (∃ after, session.runTo 0x10200 5 = .ok false after ∧ after.machine.pc = 0x10200 % 65536) ∧
      (∃ after, session.runTo 0x202 1 = .ok false after ∧ after.machine.pc = 0x202 % 65536) ∧
      ∃ after, session.runTo 0x200 0 = .ok false after ∧ after.machine.pc = 0x200 % 65536 := by
  obtain ⟨start, next, size, pc, peeked, stepped, nextPc, -⟩ := Machine.exists_jump
  let session : Session :=
    { loadsFont := false, cyclesPerFrame := 1, machine := start, debugger := {}, total := 0,
      program := [] }
  refine ⟨session, size, rfl, rfl, ?_, ?_, ?_⟩
  · let seeking : Session := session.mapDebugger (·.addAddress 0x10200)
    let stop : Event := ⟨.address, some 0x200, some 0x1202, "Breakpoint at " ++ Text.dollar 0x200⟩
    let last : Session := seeking.mapDebugger ({ · with lastEvent := some stop })
    have stopped : seeking.debugger.consult start start.pc 0x1202 =
        .ok (some stop, last.debugger) := by
      rw [pc]
      rfl
    have first : seeking.turn = .ok (some stop) last := turn_of_stopped peeked stopped
    have ran : seeking.run 5 = .ok stop last := by
      apply run_of_stopped
      change runFor 5 seeking = _
      simp only [runFor, first]
    exact ⟨_, runTo_of_run ran, pc⟩
  · let seeking : Session := session.mapDebugger (·.addAddress 0x202)
    have passed : seeking.debugger.consult start start.pc 0x1202 =
        .ok (none, seeking.debugger) := by
      rw [pc]
      rfl
    let arrived : Session := seeking.moved 1 next
    have first : seeking.turn = .ok none arrived := turn_of_passed peeked passed stepped
    have ran : seeking.run 1 = .ok (spentEvent 1 arrived) arrived := by
      apply run_of_spent
      change runFor 1 seeking = _
      simp only [runFor, first]
    exact ⟨_, runTo_of_run ran, nextPc⟩
  · let seeking : Session := session.mapDebugger (·.addAddress 0x200)
    have ran : seeking.run 0 = .ok (spentEvent 0 seeking) seeking := rfl
    exact ⟨_, runTo_of_run ran, pc⟩

end Session

end ChipEight
