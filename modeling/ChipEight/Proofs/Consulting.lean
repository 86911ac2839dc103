import ChipEight.Debugger
import ChipEight.Proofs.Execution

namespace ChipEight

/-! When the debugger stops a run.

`StopsAt` collects the five causes.  On a machine with all its registers every condition
can be evaluated, so one of them is at hand or the debugger is left as it was.  `Cause` tells,
for any machine, which of the five an answer is due to.
-/

variable {machine : Machine} {conditions : List (Option Condition)} {first : Condition}

theorem Watched.value_ok (count : machine.registers.length = Machine.registerCount)
    (watched : Watched) : ∃ number, watched.value machine = .ok number := by
  cases watched with
  | register x =>
      have bound : x.val < machine.registers.length := by
        rw [count]
        exact x.isLt
      refine ⟨machine.registers[x.val].toNat, ?_⟩
      simp only [value, Machine.register, List.getElem?_eq_getElem bound, ok_bind, pure_eq_ok]
  | _ => exact ⟨_, rfl⟩

theorem Condition.holds_ok (count : machine.registers.length = Machine.registerCount)
    (condition : Condition) : ∃ result, condition.holds machine = .ok result := by
  obtain ⟨number, read⟩ := condition.watched.value_ok count
  exact ⟨_, by rw [holds, read]; rfl⟩

namespace Debugger

open Text

/-- Whether there is a cause to stop before an opcode at an address. -/
def StopsAt (debugger : Debugger) (machine : Machine) (pc opcode : Int) : Prop :=
  debugger.interrupt ∨ debugger.stepMode ∨ pc ∈ debugger.addresses ∨ opcode ∈ debugger.opcodes ∨
    ∃ condition, some condition ∈ debugger.conditions ∧ condition.holds machine = .ok true

variable {debugger : Debugger} {pc opcode : Int}

theorem firstHolding_ok (count : machine.registers.length = Machine.registerCount)
    (conditions : List (Option Condition)) :
    ∃ found, firstHolding machine conditions = .ok found := by
  induction conditions with
  | nil => exact ⟨none, rfl⟩
  | cons entry rest induction =>
      cases entry with
      | none => exact induction
      | some condition =>
          obtain ⟨result, evaluated⟩ := condition.holds_ok count
          simp only [firstHolding, evaluated, ok_bind]
          cases result with
          | true => exact ⟨some condition, rfl⟩
          | false => exact induction

/-- A condition holds, under this number, and none of those before it does. -/
structure Lowest (machine : Machine) (conditions : List (Option Condition)) (number : Nat)
    (first : Condition) : Prop where
  listed : conditions[number]? = some (some first)
  holds : first.holds machine = .ok true
  earlier : ∀ before < number, ∀ other, conditions[before]? = some (some other) →
    other.holds machine = .ok false

theorem Lowest.succ {number : Nat} {entry : Option Condition}
    (lowest : Lowest machine conditions number first)
    (fails : ∀ other, entry = some other → other.holds machine = .ok false) :
    Lowest machine (entry :: conditions) (number + 1) first where
  listed := lowest.listed
  holds := lowest.holds
  earlier := by
    intro before less other listed
    cases before with
    | zero => exact fails other (Option.some.inj listed)
    | succ before => exact lowest.earlier before (Nat.lt_of_succ_lt_succ less) other listed

theorem firstHolding_lowest (found : firstHolding machine conditions = .ok (some first)) :
    ∃ number, Lowest machine conditions number first := by
  induction conditions with
  | nil => cases found
  | cons entry rest induction =>
      cases entry with
      | none =>
          obtain ⟨number, lowest⟩ := induction found
          exact ⟨number + 1, lowest.succ (by simp)⟩
      | some condition =>
          simp only [firstHolding, bind_eq_ok_iff] at found
          obtain ⟨result, evaluated, found⟩ := found
          cases result with
          | true =>
              cases found
              exact ⟨0, rfl, evaluated, fun before less => absurd less (Nat.not_lt_zero before)⟩
          | false =>
              obtain ⟨number, lowest⟩ := induction found
              refine ⟨number + 1, lowest.succ fun other same => ?_⟩
              cases same
              exact evaluated

theorem firstHolding_absent (found : firstHolding machine conditions = .ok none) :
    ∀ condition, some condition ∈ conditions → condition.holds machine = .ok false := by
  induction conditions with
  | nil => simp
  | cons entry rest induction =>
      intro condition member
      cases entry with
      | none => exact induction found condition (by simpa using member)
      | some other =>
          simp only [firstHolding, bind_eq_ok_iff] at found
          obtain ⟨result, evaluated, found⟩ := found
          cases result with
          | true => cases found
          | false =>
              rcases List.mem_cons.1 member with same | later
              · cases same
                exact evaluated
              · exact induction found condition later

theorem consult_ok (count : machine.registers.length = Machine.registerCount)
    (debugger : Debugger) (pc opcode : Int) :
    ∃ stop after, debugger.consult machine pc opcode = .ok (stop, after) := by
  obtain ⟨found, evaluated⟩ := firstHolding_ok count debugger.conditions
  unfold consult
  split
  · exact ⟨_, _, rfl⟩
  split
  · exact ⟨_, _, rfl⟩
  split
  · exact ⟨_, _, rfl⟩
  split
  · exact ⟨_, _, rfl⟩
  rw [evaluated]
  cases found with
  | none => exact ⟨_, _, rfl⟩
  | some first => exact ⟨_, _, rfl⟩

/-- Why the debugger stops, in which words, and what it is then left as.  A cause counts only
where those before it are absent. -/
inductive Cause (debugger : Debugger) (machine : Machine) (pc opcode : Int) :
    Reason → String → Debugger → Prop where
  | interrupt (requested : debugger.interrupt = true) :
      Cause debugger machine pc opcode .interrupt "User interrupt"
        { debugger with interrupt := false }
  | step (calm : debugger.interrupt = false) (stepping : debugger.stepMode = true) :
      Cause debugger machine pc opcode .step ("Step at " ++ dollar pc)
        { debugger with stepMode := false }
  | address (calm : debugger.interrupt = false) (free : debugger.stepMode = false)
      (listed : pc ∈ debugger.addresses) :
      Cause debugger machine pc opcode .address ("Breakpoint at " ++ dollar pc) debugger
  | opcode (calm : debugger.interrupt = false) (free : debugger.stepMode = false)
      (unlisted : pc ∉ debugger.addresses) (listed : opcode ∈ debugger.opcodes) :
      Cause debugger machine pc opcode .opcode s!"Opcode {dollar opcode} at {dollar pc}" debugger
  | condition (calm : debugger.interrupt = false) (free : debugger.stepMode = false)
      (unlisted : pc ∉ debugger.addresses) (other : opcode ∉ debugger.opcodes)
      {first : Condition} (found : firstHolding machine debugger.conditions = .ok (some first)) :
      Cause debugger machine pc opcode .condition ("Condition: " ++ first.description) debugger

variable {event : Event} {after : Debugger}

theorem consult_cause (consulted : debugger.consult machine pc opcode = .ok (some event, after)) :
    ∃ left, Cause debugger machine pc opcode event.reason event.message left ∧
      event.address = some pc ∧ event.opcode = some opcode ∧
      after = { left with lastEvent := some event } := by
  simp only [consult] at consulted
  split at consulted
  · next requested =>
    cases consulted
    exact ⟨_, .interrupt requested, rfl, rfl, rfl⟩
  next calm =>
  rw [Bool.not_eq_true] at calm
  split at consulted
  · next stepping =>
    cases consulted
    exact ⟨_, .step calm stepping, rfl, rfl, rfl⟩
  next free =>
  rw [Bool.not_eq_true] at free
  split at consulted
  · next listed =>
    cases consulted
    exact ⟨_, .address calm free (List.contains_iff_mem.1 listed), rfl, rfl, rfl⟩
  next unlisted =>
  rw [List.contains_iff_mem] at unlisted
  split at consulted
  · next listed =>
    cases consulted
    exact ⟨_, .opcode calm free unlisted (List.contains_iff_mem.1 listed), rfl, rfl, rfl⟩
  next other =>
  rw [List.contains_iff_mem] at other
  split at consulted
  · cases consulted
  · cases consulted
  · next found =>
    cases consulted
    exact ⟨_, .condition calm free unlisted other found, rfl, rfl, rfl⟩

/-- A debugger that lets the instruction through has no cause and is left as it was. -/
theorem consult_passed (consulted : debugger.consult machine pc opcode = .ok (none, after)) :
    after = debugger ∧ ¬ debugger.StopsAt machine pc opcode := by
  simp only [consult] at consulted
  split at consulted
  · cases consulted
  next calm =>
  split at consulted
  · cases consulted
  next free =>
  split at consulted
  · cases consulted
  next unlisted =>
  rw [List.contains_iff_mem] at unlisted
  split at consulted
  · cases consulted
  next other =>
  rw [List.contains_iff_mem] at other
  split at consulted
  · cases consulted
  · next found =>
    cases consulted
    refine ⟨rfl, ?_⟩
    rintro (now | now | now | now | ⟨condition, member, holds⟩)
    · exact calm now
    · exact free now
    · exact unlisted now
    · exact other now
    · cases (firstHolding_absent found condition member).symm.trans holds
  · cases consulted

theorem consult_unchanged (consulted : debugger.consult machine pc opcode = .ok (none, after)) :
    after = debugger := (consult_passed consulted).1

variable {reason : Reason} {message : String} {left : Debugger}

theorem Cause.stopsAt (cause : Cause debugger machine pc opcode reason message left) :
    debugger.StopsAt machine pc opcode := by
  cases cause with
  | interrupt requested => exact .inl requested
  | step _ stepping => exact .inr (.inl stepping)
  | address _ _ listed => exact .inr (.inr (.inl listed))
  | opcode _ _ _ listed => exact .inr (.inr (.inr (.inl listed)))
  | condition _ _ _ _ found =>
      obtain ⟨number, lowest⟩ := firstHolding_lowest found
      have listed := List.mem_of_getElem? lowest.listed
      exact .inr (.inr (.inr (.inr ⟨_, listed, lowest.holds⟩)))

/-- Nothing is used up but the request or the step mode that the answer is due to. -/
theorem Cause.left_eq (cause : Cause debugger machine pc opcode reason message left) :
    left = { debugger with
      stepMode := debugger.stepMode && reason != .step
      interrupt := debugger.interrupt && reason != .interrupt } := by
  cases debugger
  cases cause <;> simp_all

theorem consult_stops (formed : machine.WellFormed) (stops : debugger.StopsAt machine pc opcode) :
    ∃ event after, debugger.consult machine pc opcode = .ok (some event, after) ∧
      event.address = some pc ∧ event.opcode = some opcode ∧ after.lastEvent = some event := by
  obtain ⟨stop, after, consulted⟩ := consult_ok formed.registers debugger pc opcode
  cases stop with
  | none => exact absurd stops (consult_passed consulted).2
  | some event =>
      obtain ⟨left, -, place, word, rfl⟩ := consult_cause consulted
      exact ⟨event, _, consulted, place, word, rfl⟩

theorem consult_passes (formed : machine.WellFormed)
    (passes : ¬ debugger.StopsAt machine pc opcode) :
    debugger.consult machine pc opcode = .ok (none, debugger) := by
  obtain ⟨stop, after, consulted⟩ := consult_ok formed.registers debugger pc opcode
  cases stop with
  | none => rw [consulted, consult_unchanged consulted]
  | some event =>
      obtain ⟨left, cause, -⟩ := consult_cause consulted
      exact absurd cause.stopsAt passes

/-- Nothing but the budget of a run is ever used up, and that is none of the causes. -/
theorem Cause.not_budget
    (cause : Cause debugger machine pc opcode reason message left) : reason ≠ .budget := by
  cases cause <;> simp

end Debugger

end ChipEight
