import ChipEight.Proofs.DebuggerHistory
import ChipEight.Proofs.RunReturn

namespace ChipEight

/-! The breakpoint that a run to an address sets for itself.

A run looks at the addresses only to see whether one of them is the next, and never writes them.
So a run with another list of the same addresses is the same run, and the list that was there
before can be put back at the end, whether the run has returned or failed.
-/

namespace Outcome

variable {State State' Value Value' : Type}

/-- An outcome with its value read and its state seen in other ways. -/
def map (read : Value → Value') (view : State → State') :
    Outcome State Value → Outcome State' Value'
  | .ok value after => .ok (read value) (view after)
  | .error fault left => .error fault (view left)

def fault? : Outcome State Value → Option Fault
  | .ok _ _ => none
  | .error fault _ => some fault

@[simp] theorem state_map (read : Value → Value') (view : State → State')
    (outcome : Outcome State Value) : (outcome.map read view).state = view outcome.state := by
  cases outcome <;> rfl

@[simp] theorem fault?_map (read : Value → Value') (view : State → State')
    (outcome : Outcome State Value) : (outcome.map read view).fault? = outcome.fault? := by
  cases outcome <;> rfl

theorem map_congr {read : Value → Value'} {view other : State → State'}
    {outcome : Outcome State Value} (same : view outcome.state = other outcome.state) :
    outcome.map read view = outcome.map read other := by
  cases outcome with
  | ok value after => exact congrArg (EStateM.Result.ok (read value)) same
  | error fault left => exact congrArg (EStateM.Result.error fault) same

theorem map_map {State'' Value'' : Type} (read : Value → Value') (view : State → State')
    (reread : Value' → Value'') (review : State' → State'') (outcome : Outcome State Value) :
    (outcome.map read view).map reread review = outcome.map (reread ∘ read) (review ∘ view) := by
  cases outcome <;> rfl

end Outcome

namespace Debugger

variable {debugger : Debugger} {addresses : List Int}

def withAddresses (addresses : List Int) (debugger : Debugger) : Debugger :=
  { debugger with addresses }

/-- Another list of the same addresses gives the same answer. -/
theorem consult_withAddresses (same : ∀ word, word ∈ addresses ↔ word ∈ debugger.addresses)
    (machine : Machine) (pc opcode : Int) :
    (debugger.withAddresses addresses).consult machine pc opcode =
      (debugger.consult machine pc opcode).map fun answer =>
        (answer.1, answer.2.withAddresses addresses) := by
  obtain ⟨listed, opcodes, conditions, lastEvent, stepMode, interrupt⟩ := debugger
  have contains : addresses.contains pc = listed.contains pc := by
    rw [Bool.eq_iff_iff, List.contains_iff_mem, List.contains_iff_mem, same]
  cases interrupt with
  | true => rfl
  | false =>
  cases stepMode with
  | true => rfl
  | false =>
  simp only [consult, withAddresses, contains]
  cases listed.contains pc with
  | true => rfl
  | false =>
  by_cases other : opcodes.contains opcode = true
  · simp only [other]
    rfl
  simp only [other]
  cases firstHolding machine conditions with
  | error fault => rfl
  | ok found => cases found <;> rfl

variable {address : Int}

/-- A breakpoint that is set already is not set again. -/
theorem mem_addAddress_iff (known : debugger.hasAddress address = true) (word : Int) :
    word ∈ (debugger.addAddress address).addresses ↔ word ∈ debugger.addresses := by
  have member : Bits.lowWord address ∈ debugger.addresses := List.contains_iff_mem.1 known
  rw [addAddress, mem_insertAscending]
  constructor
  · rintro (rfl | listed)
    · exact member
    · exact listed
  · exact .inr

theorem filter_insertAscending {value : Int} {values : List Int} (absent : value ∉ values) :
    (insertAscending value values).filter (· != value) = values := by
  have others {rest : List Int} (absent : value ∉ rest) : rest.filter (· != value) = rest := by
    refine List.filter_eq_self.2 fun other member => bne_iff_ne.2 ?_
    rintro rfl
    exact absent member
  fun_induction insertAscending value values with
  | case1 => simp
  | case2 first rest smaller => rw [List.filter_cons_of_neg (by simp), others absent]
  | case3 rest unordered => exact absurd List.mem_cons_self absent
  | case4 first rest unordered apart induction =>
      rw [List.filter_cons_of_pos (by simpa using Ne.symm apart),
        induction (fun member => absent (List.mem_cons_of_mem first member))]

theorem filter_addAddress (unknown : ¬ debugger.hasAddress address = true) :
    (debugger.addAddress address).addresses.filter (· != Bits.lowWord address) =
      debugger.addresses :=
  filter_insertAscending fun member => unknown (List.contains_iff_mem.2 member)

end Debugger

namespace Session

variable {session : Session} {addresses : List Int}

def withAddresses (addresses : List Int) (session : Session) : Session :=
  session.mapDebugger (·.withAddresses addresses)

@[simp] theorem withAddresses_machine :
    (session.withAddresses addresses).machine = session.machine := rfl

theorem turn_withAddresses
    (same : ∀ word, word ∈ addresses ↔ word ∈ session.debugger.addresses) :
    (session.withAddresses addresses).turn = session.turn.map id (withAddresses addresses) := by
  have consulted : (session.withAddresses addresses).consult =
      session.consult.map fun answer => (answer.1, answer.2.withAddresses addresses) := by
    simp only [consult, withAddresses, mapDebugger, Debugger.consult_withAddresses same]
    cases session.machine.peek with
    | error fault => rfl
    | ok word =>
        simp only [ok_bind]
        cases session.debugger.consult session.machine session.machine.pc word.toNat <;> rfl
  simp only [turn, consulted]
  cases session.consult with
  | error fault => rfl
  | ok answer =>
      obtain ⟨found, going⟩ := answer
      cases found with
      | some event => rfl
      | none =>
          simp only [Except.map, advance, withAddresses_machine]
          cases going.machine.step <;> rfl

/-- By induction on the turns: one that goes on leaves the debugger as it was, so the next one
is asked about the same addresses. -/
theorem runFor_withAddresses
    (same : ∀ word, word ∈ addresses ↔ word ∈ session.debugger.addresses) (count : Nat) :
    runFor count (session.withAddresses addresses) =
      (runFor count session).map id (withAddresses addresses) := by
  induction count generalizing session with
  | zero => rfl
  | succ count induction =>
      simp only [runFor, turn_withAddresses same]
      cases turned : session.turn with
      | error fault left => rfl
      | ok found middle =>
          cases turn_turned turned with
          | stopped peeked consulted => rfl
          | passed stepped => exact induction same

theorem run_withAddresses
    (same : ∀ word, word ∈ addresses ↔ word ∈ session.debugger.addresses) (budget : Int) :
    (session.withAddresses addresses).run budget =
      (session.run budget).map id (withAddresses addresses) := by
  simp only [run, runFor_withAddresses same]
  cases runFor budget.toNat session with
  | error fault left => rfl
  | ok stop after => cases stop <;> rfl

/-- Nothing that a run does adds a breakpoint or a condition or takes one away. -/
structure SameLists (session after : Session) : Prop where
  addresses : after.debugger.addresses = session.debugger.addresses
  opcodes : after.debugger.opcodes = session.debugger.opcodes
  conditions : after.debugger.conditions = session.debugger.conditions

theorem SameLists.trans {middle after : Session} (first : session.SameLists middle)
    (second : middle.SameLists after) : session.SameLists after :=
  ⟨second.addresses.trans first.addresses, second.opcodes.trans first.opcodes,
    second.conditions.trans first.conditions⟩

theorem consult_sameLists {stop : Option Event} {asked : Session}
    (consulted : session.consult = .ok (stop, asked)) : session.SameLists asked := by
  simp only [consult, bind_eq_ok_iff] at consulted
  obtain ⟨word, -, ⟨found, debugger⟩, answered, result⟩ := consulted
  cases result
  have edited := Debugger.consult_edited answered
  exact ⟨edited.addresses, edited.opcodes, edited.conditions⟩

theorem turn_sameLists (session : Session) : session.SameLists session.turn.state := by
  cases consulted : session.consult with
  | error fault =>
      simp only [turn, consulted]
      exact ⟨rfl, rfl, rfl⟩
  | ok answer =>
      obtain ⟨found, asked⟩ := answer
      have kept := consult_sameLists consulted
      cases found with
      | some event =>
          simp only [turn, consulted]
          exact kept
      | none =>
          simp only [turn, consulted, advance]
          cases asked.machine.step <;> exact ⟨kept.addresses, kept.opcodes, kept.conditions⟩

theorem run_sameLists (session : Session) (budget : Int) :
    session.SameLists (session.run budget).state := by
  rw [run_state]
  apply runFor_keeps
  · intro middle kept
    exact kept.trans middle.turn_sameLists
  · exact ⟨rfl, rfl, rfl⟩

theorem withAddresses_same (same : session.debugger.addresses = addresses) :
    session.withAddresses addresses = session := by
  subst same
  rfl

/-- Whether the event that a run ends with tells that it has come to an address. -/
def reports (address : Int) (event : Event) : Bool :=
  event.reason == .address && event.address == some address

/-- The list of breakpoints need not be edited twice: afterwards it is what it was. -/
theorem runTo_eq_map (session : Session) (address budget : Int) :
    session.runTo address budget =
      ((session.mapDebugger (·.addAddress address)).run budget).map (reports address)
        (withAddresses session.debugger.addresses) := by
  unfold runTo
  by_cases known : session.debugger.hasAddress address = true
  · have kept := session.run_sameLists budget
    have added : session.mapDebugger (·.addAddress address) =
        session.withAddresses (session.debugger.addAddress address).addresses := rfl
    have plain : (session.run budget).map (reports address) id =
        (session.run budget).map (reports address) (withAddresses session.debugger.addresses) :=
      Outcome.map_congr (withAddresses_same kept.addresses).symm
    rw [added, run_withAddresses (Debugger.mem_addAddress_iff known), Outcome.map_map]
    simp only [if_pos known]
    refine Eq.trans ?_ plain
    cases session.run budget <;> rfl
  · have kept := (session.mapDebugger (·.addAddress address)).run_sameLists budget
    have tidied : ((session.mapDebugger (·.addAddress address)).run budget).state.mapDebugger
          (·.removeAddress address) =
        ((session.mapDebugger (·.addAddress address)).run budget).state.withAddresses
          session.debugger.addresses := by
      simp only [mapDebugger, withAddresses, Debugger.removeAddress, Debugger.withAddresses]
        at kept ⊢
      rw [kept.addresses, Debugger.filter_addAddress known]
    rw [← Outcome.map_congr tidied]
    simp only [if_neg known]
    cases (session.mapDebugger (·.addAddress address)).run budget <;> rfl

/-- A search is a run with one more address to stop at, and takes that address away again however
the run ends. -/
theorem runTo_leaves_no_trace (session : Session) (address budget : Int) :
    let ran := (session.mapDebugger (·.addAddress address)).run budget
    let sought := session.runTo address budget
    sought.fault? = ran.fault? ∧
      sought.state.machine = ran.state.machine ∧
      sought.state.total = ran.state.total ∧
      sought.state.debugger.stepMode = ran.state.debugger.stepMode ∧
      sought.state.debugger.interrupt = ran.state.debugger.interrupt ∧
      sought.state.debugger.lastEvent = ran.state.debugger.lastEvent ∧
      sought.state.debugger.addresses = session.debugger.addresses ∧
      sought.state.debugger.opcodes = session.debugger.opcodes ∧
      sought.state.debugger.conditions = session.debugger.conditions := by
  intro ran sought
  have same : sought = ran.map (reports address) (withAddresses session.debugger.addresses) :=
    session.runTo_eq_map address budget
  have kept := (session.mapDebugger (·.addAddress address)).run_sameLists budget
  rw [same, Outcome.fault?_map, Outcome.state_map]
  exact ⟨rfl, rfl, rfl, rfl, rfl, rfl, rfl, kept.opcodes, kept.conditions⟩

end Session

end ChipEight
