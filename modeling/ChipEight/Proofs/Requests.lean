import ChipEight.Proofs.Consulting
import ChipEight.Proofs.DebuggerHistory

namespace ChipEight.Debugger

/-! How long a request to stop is pending.

A debugger that is consulted answers with the first of its causes.  It uses up a request only in
an answer that is due to it.  Apart from such answers only two changes take a request back, so
each one is pending until the first call that `Withdraws` it.
-/

variable {debugger : Debugger} {machine : Machine} {pc opcode : Int} {stop : Option Event}
  {event : Event} {after : Debugger} {reason : Reason} {message : String} {left : Debugger}
  {call : Call} {series : List Call}

/-! ### One answer -/

/-- What a debugger answers, and what it is left as. -/
structure Consulted (debugger : Debugger) (machine : Machine) (pc opcode : Int)
    (stop : Option Event) (after : Debugger) : Prop where
  stops_iff : stop.isSome ↔ debugger.StopsAt machine pc opcode
  passed : stop = none → after = debugger
  stopped : ∀ event, stop = some event → event.address = some pc ∧ event.opcode = some opcode ∧
    ∃ left, Cause debugger machine pc opcode event.reason event.message left
  used : ∀ event, stop = some event → after = { debugger with
    lastEvent := some event
    stepMode := debugger.stepMode && event.reason != .step
    interrupt := debugger.interrupt && event.reason != .interrupt }
  named : ∀ event, stop = some event → event.reason = .condition →
    ∃ number first, Lowest machine debugger.conditions number first ∧
      event.message = "Condition: " ++ first.description

theorem Cause.lowest (cause : Cause debugger machine pc opcode reason message left)
    (condition : reason = .condition) :
    ∃ number first, Lowest machine debugger.conditions number first ∧
      message = "Condition: " ++ first.description := by
  cases cause with
  | condition _ _ _ _ found =>
      obtain ⟨number, lowest⟩ := firstHolding_lowest found
      exact ⟨number, _, lowest, rfl⟩
  | _ => cases condition

theorem consulted_of_ok (consulted : debugger.consult machine pc opcode = .ok (stop, after)) :
    Consulted debugger machine pc opcode stop after := by
  cases stop with
  | none =>
      obtain ⟨same, absent⟩ := consult_passed consulted
      exact {
        stops_iff := iff_of_false Bool.false_ne_true absent
        passed := fun _ => same
        stopped := nofun
        used := nofun
        named := nofun }
  | some event =>
      obtain ⟨left, cause, place, word, same⟩ := consult_cause consulted
      exact {
        stops_iff := iff_of_true rfl cause.stopsAt
        passed := nofun
        stopped := by
          intro other equal
          cases equal
          exact ⟨place, word, left, cause⟩
        used := by
          intro other equal
          cases equal
          rw [same, cause.left_eq]
        named := by
          intro other equal condition
          cases equal
          exact cause.lowest condition }

/-! ### A request over a series of calls -/

/-- A call that uses up a request, or takes it back. -/
inductive Withdraws (debugger : Debugger) : Call → Prop where
  | stop {machine : Machine} {pc opcode : Int} {event : Event} {after : Debugger}
      (consulted : debugger.consult machine pc opcode = .ok (some event, after))
      (answered : event.reason = .interrupt) : Withdraws debugger (.consult machine pc opcode)
  | cancel : Withdraws debugger (.change .cancel)
  | clear : Withdraws debugger (.change .clear)

/-- A request is pending before, between and after the calls. -/
def Pending (debugger : Debugger) (series : List Call) : Prop :=
  ∀ before, before <+: series → (debugger.calls before).interrupt = true

theorem call_consult (consulted : debugger.consult machine pc opcode = .ok (stop, after)) :
    debugger.call (.consult machine pc opcode) = after := by
  rw [call, consulted]
  rfl

theorem Cause.of_interrupt (cause : Cause debugger machine pc opcode reason message left)
    (answered : reason = .interrupt) :
    debugger.interrupt = true ∧ left = { debugger with interrupt := false } := by
  cases cause with
  | interrupt requested => exact ⟨requested, rfl⟩
  | _ => cases answered

theorem interrupt_of_answer
    (consulted : debugger.consult machine pc opcode = .ok (some event, after))
    (answered : event.reason = .interrupt) :
    debugger.interrupt = true ∧ after.interrupt = false ∧ after.stepMode = debugger.stepMode := by
  obtain ⟨left, cause, -, -, rfl⟩ := consult_cause consulted
  obtain ⟨requested, rfl⟩ := cause.of_interrupt answered
  exact ⟨requested, rfl, rfl⟩

theorem Withdraws.call_interrupt (withdraws : Withdraws debugger call) :
    (debugger.call call).interrupt = false := by
  cases withdraws with
  | stop consulted answered =>
      rw [call_consult consulted]
      exact (interrupt_of_answer consulted answered).2.1
  | cancel => rfl
  | clear => rfl

/-- A request comes before every other cause, on any machine. -/
theorem consult_of_interrupt (pending : debugger.interrupt = true) (machine : Machine)
    (pc opcode : Int) : ∃ event after,
      debugger.consult machine pc opcode = .ok (some event, after) ∧
        event.reason = .interrupt := by
  rw [consult, if_pos pending]
  exact ⟨_, _, rfl, rfl⟩

theorem call_interrupt (pending : debugger.interrupt = true)
    (stays : ¬ Withdraws debugger call) : (debugger.call call).interrupt = true := by
  cases call with
  | add condition => exact pending
  | consult machine pc opcode =>
      obtain ⟨event, after, consulted, answered⟩ := consult_of_interrupt pending machine pc opcode
      exact absurd (.stop consulted answered) stays
  | change change =>
      cases change with
      | cancel => exact absurd .cancel stays
      | clear => exact absurd .clear stays
      | request => rfl
      | addCondition register operator value description =>
          simp only [Debugger.call, Debugger.change]
          cases Condition.ofText register operator value description with
          | error fault => exact pending
          | ok condition => exact pending
      | removeCondition number =>
          simp only [Debugger.call, Debugger.change, Outcome.settle, removeCondition]
          split
          · exact pending
          · exact pending
      | _ => exact pending

theorem pending_or_withdrawn (requested : debugger.interrupt = true) (series : List Call) :
    Pending debugger series ∨
      ∃ before call after, series = before ++ call :: after ∧ Pending debugger before ∧
        Withdraws (debugger.calls before) call ∧
        (debugger.calls (before ++ [call])).interrupt = false := by
  induction series using List.reverseRecOn with
  | nil =>
      refine .inl fun before within => ?_
      rw [List.prefix_nil.1 within]
      exact requested
  | append_singleton earlier last induction =>
      rcases induction with pending | ⟨before, call, after, rfl, pending, withdraws, gone⟩
      · have now := pending earlier (List.prefix_refl earlier)
        by_cases withdraws : Withdraws (debugger.calls earlier) last
        · refine .inr ⟨earlier, last, [], rfl, pending, withdraws, ?_⟩
          rw [calls_concat]
          exact withdraws.call_interrupt
        · refine .inl fun before within => ?_
          rcases List.prefix_concat_iff.1 within with rfl | within
          · rw [calls_concat]
            exact call_interrupt now withdraws
          · exact pending before within
      · exact .inr ⟨before, call, after ++ [last], by simp, pending, withdraws, gone⟩

/-- A debugger stops for the first of its reasons in their order, and of what it was asked for it
only gives up what it has stopped for.  A request to interrupt stays until it is answered or
withdrawn, and the answer to it leaves step mode alone. -/
theorem consult_precedence (debugger : Debugger) :
    (∀ machine : Machine, machine.registers.length = Machine.registerCount → ∀ pc opcode,
      ∃ stop after, debugger.consult machine pc opcode = .ok (stop, after) ∧
        Consulted debugger machine pc opcode stop after) ∧
    (debugger.interrupt = true → ∀ series,
      Pending debugger series ∨
        ∃ before call after, series = before ++ call :: after ∧ Pending debugger before ∧
          Withdraws (debugger.calls before) call ∧
          (debugger.calls (before ++ [call])).interrupt = false) ∧
    ∀ series machine pc opcode event after,
      (debugger.calls series).consult machine pc opcode = .ok (some event, after) →
        event.reason = .interrupt →
        debugger.calls (series ++ [.consult machine pc opcode]) = after ∧
          (debugger.calls series).interrupt = true ∧ after.interrupt = false ∧
          after.stepMode = (debugger.calls series).stepMode := by
  refine ⟨?_, pending_or_withdrawn, ?_⟩
  · intro machine count pc opcode
    obtain ⟨stop, after, consulted⟩ := consult_ok count debugger pc opcode
    exact ⟨stop, after, consulted, consulted_of_ok consulted⟩
  · intro series machine pc opcode event after consulted answered
    refine ⟨?_, interrupt_of_answer consulted answered⟩
    rw [calls_concat]
    exact call_consult consulted

/-- A request and step mode are answered one after the other, both before the breakpoint. -/
theorem request_then_step :
    let idle : Condition := ⟨.index, .equal, 0, "idle"⟩
    let debugger : Debugger :=
      { addresses := [0x200], conditions := [none, some idle], interrupt := true, stepMode := true }
    let asked : Call := .consult .initial 0x200 0x1200
    Machine.initial.registers.length = Machine.registerCount ∧
      (∃ stop after, debugger.consult .initial 0x200 0x1200 = .ok (stop, after) ∧
        Consulted debugger .initial 0x200 0x1200 stop after) ∧
      (debugger.interrupt = true ∧
        ∃ before call after, [asked, asked] = before ++ call :: after ∧ Pending debugger before ∧
          Withdraws (debugger.calls before) call) ∧
      ((debugger.calls [asked]).lastEvent.map Event.reason = some .interrupt ∧
        (debugger.calls [asked]).stepMode = true) ∧
      (debugger.calls [asked, asked]).lastEvent.map Event.reason = some .step := by
  intro idle debugger asked
  have count : Machine.initial.registers.length = Machine.registerCount := by decide
  have used : (debugger.calls [asked]).interrupt = false := rfl
  obtain ⟨answers, withdrawn, stepping⟩ := consult_precedence debugger
  have requested : debugger.interrupt = true := rfl
  obtain ⟨event, after, consulted, answered⟩ :=
    consult_of_interrupt requested .initial 0x200 0x1200
  obtain ⟨left, -, -, survives⟩ := stepping [] .initial 0x200 0x1200 event after consulted answered
  refine ⟨count, answers .initial count 0x200 0x1200, ⟨requested, ?_⟩, ⟨rfl, ?_⟩, rfl⟩
  · rcases withdrawn requested [asked, asked] with pending | ⟨before, call, rest, withdraws⟩
    · cases used.symm.trans (pending [asked] ⟨[asked], rfl⟩)
    · exact ⟨before, call, rest, withdraws.1, withdraws.2.1, withdraws.2.2.1⟩
  · rw [← List.nil_append [asked], left, survives]
    rfl

end ChipEight.Debugger
