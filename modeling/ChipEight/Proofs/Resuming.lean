import ChipEight.Proofs.RunReturn

namespace ChipEight.Session

/-! A run taken up again where its budget was used up.

Each turn asks the debugger once, before its instruction.  So a run is the series of its turns,
and it can be cut between any two of them.
-/

variable {session middle : Session} {event : Event} {first second : Int}

theorem runFor_add (first second : Nat) (session : Session) :
    runFor (first + second) session =
      match runFor first session with
      | .ok none middle => runFor second middle
      | ended => ended := by
  induction first generalizing session with
  | zero =>
      rw [Nat.zero_add]
      rfl
  | succ first induction =>
      rw [Nat.succ_add]
      simp only [runFor]
      cases session.turn with
      | error fault left => rfl
      | ok stop after =>
          cases stop with
          | some event => rfl
          | none => exact induction after

/-- A run that has spent its budget is continued by another one as a single run with both budgets
would have gone on. -/
theorem run_resumed (positive : 0 ≤ first) (more : 0 ≤ second)
    (ran : session.run first = .ok event middle) (spent : event.reason = .budget) :
    (∃ fault left, middle.run second = .error fault left ∧
      session.run (first + second) = .error fault left) ∨
    (∃ stop after, stop.reason ≠ .budget ∧ middle.run second = .ok stop after ∧
      session.run (first + second) = .ok stop after) ∨
    ∃ after,
      middle.run second =
        .ok ⟨.budget, some after.machine.pc, none, s!"Reached max steps ({second})"⟩ after ∧
      session.run (first + second) =
        .ok ⟨.budget, some after.machine.pc, none, s!"Reached max steps ({first + second})"⟩
          after := by
  obtain ⟨reached, -⟩ | ⟨-, other⟩ := run_eq_ok ran
  · have whole : runFor (first + second).toNat session = runFor second.toNat middle := by
      rw [Int.toNat_add positive more, runFor_add, reached]
    cases rest : runFor second.toNat middle with
    | error fault left =>
        rw [rest] at whole
        exact .inl ⟨fault, left, by rw [run, rest], by rw [run, whole]⟩
    | ok stop after =>
        rw [rest] at whole
        cases stop with
        | none => exact .inr (.inr ⟨after, run_of_spent rest, run_of_spent whole⟩)
        | some stop =>
            have returned := run_of_stopped rest
            refine .inr (.inl ⟨stop, after, ?_, returned, run_of_stopped whole⟩)
            obtain ⟨exhausted, -⟩ | ⟨-, apart⟩ := run_eq_ok returned
            · cases rest.symm.trans exhausted
            · exact apart
  · exact absurd spent other

/-- The first run ends right before a breakpoint, and the second one stops there at once. -/
theorem run_resumed_at_breakpoint :
    ∃ (session middle after : Session) (event stop : Event), (0 : Int) ≤ 1 ∧ (0 : Int) ≤ 5 ∧
      session.run 1 = .ok event middle ∧ event.reason = .budget ∧ stop.reason = .address ∧
      middle.run 5 = .ok stop after ∧ session.run (1 + 5) = .ok stop after := by
  obtain ⟨start, next, -, pc, peeked, stepped, nextPc, nextPeeked⟩ := Machine.exists_jump
  let debugger : Debugger := { addresses := [0x202] }
  let session : Session :=
    { loadsFont := false, cyclesPerFrame := 1, machine := start, debugger, total := 0, program := [] }
  let middle : Session := session.moved 1 next
  let stop : Event := ⟨.address, some 0x202, some 0, "Breakpoint at " ++ Text.dollar 0x202⟩
  let after : Session := { middle with debugger := { debugger with lastEvent := some stop } }
  have passed : debugger.consult start start.pc 0x1202 = .ok (none, debugger) := by
    rw [pc]
    rfl
  have stopped : debugger.consult next next.pc 0 = .ok (some stop, after.debugger) := by
    rw [nextPc]
    rfl
  have first : session.turn = .ok none middle := turn_of_passed peeked passed stepped
  have second : middle.turn = .ok (some stop) after := turn_of_stopped nextPeeked stopped
  have ran : session.run 1 = .ok (spentEvent 1 middle) middle := by
    apply run_of_spent
    change runFor 1 session = _
    simp only [runFor, first]
  have resumed : middle.run 5 = .ok stop after := by
    apply run_of_stopped
    change runFor 5 middle = _
    simp only [runFor, second]
  have positive : (0 : Int) ≤ 1 := by decide
  have more : (0 : Int) ≤ 5 := by decide
  refine ⟨session, middle, after, _, stop, positive, more, ran, rfl, rfl, resumed, ?_⟩
  rcases run_resumed positive more ran rfl with
    ⟨_, _, failed, -⟩ | ⟨_, _, -, returned, whole⟩ | ⟨_, returned, -⟩
  · cases failed.symm.trans resumed
  · cases returned.symm.trans resumed
    exact whole
  · have same := (EStateM.Result.ok.inj (returned.symm.trans resumed)).1
    cases (congrArg Event.reason same : Reason.budget = .address)

end ChipEight.Session
