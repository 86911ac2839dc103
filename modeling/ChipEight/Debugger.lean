import ChipEight.Debugger.Condition
import ChipEight.Debugger.Event

namespace ChipEight

/-! Breakpoints, conditions and requests to stop.

A host consults the debugger before every instruction.  The machine itself knows
nothing of it.
-/

open Text

structure Debugger where
  /-- Breakpoint addresses, ascending. -/
  addresses : List Int := []
  /-- Opcodes to stop before, ascending. -/
  opcodes : List Int := []
  /-- Conditions by number; a removed one leaves its place empty. -/
  conditions : List (Option Condition) := []
  lastEvent : Option Event := none
  stepMode : Bool := false
  interrupt : Bool := false
deriving DecidableEq, Repr

namespace Debugger

/-- Puts a number into its place in an ascending list, unless it is there. -/
def insertAscending (value : Int) : List Int → List Int
  | [] => [value]
  | first :: rest =>
      if value < first then value :: first :: rest
      else if value = first then first :: rest
      else first :: insertAscending value rest

@[simp] theorem mem_insertAscending (value other : Int) (values : List Int) :
    other ∈ insertAscending value values ↔ other = value ∨ other ∈ values := by
  fun_induction insertAscending value values <;> simp_all
  grind

theorem pairwise_insertAscending {value : Int} {values : List Int}
    (ascending : values.Pairwise (· < ·)) : (insertAscending value values).Pairwise (· < ·) := by
  induction values with
  | nil => simp [insertAscending]
  | cons first rest induction =>
      obtain ⟨below, others⟩ := List.pairwise_cons.1 ascending
      unfold insertAscending
      split
      · next smaller => exact List.pairwise_cons.2 ⟨by grind, ascending⟩
      split
      · exact ascending
      · refine List.pairwise_cons.2 ⟨fun other found => ?_, induction others⟩
        rw [mem_insertAscending] at found
        grind

variable (debugger : Debugger)

def addAddress (address : Int) : Debugger :=
  { debugger with addresses := insertAscending (Bits.lowWord address) debugger.addresses }

def removeAddress (address : Int) : Debugger :=
  { debugger with addresses := debugger.addresses.filter (· != Bits.lowWord address) }

def hasAddress (address : Int) : Bool := debugger.addresses.contains (Bits.lowWord address)

def clearAddresses : Debugger := { debugger with addresses := [] }

def addOpcode (opcode : Int) : Debugger :=
  { debugger with opcodes := insertAscending (Bits.lowWord opcode) debugger.opcodes }

def removeOpcode (opcode : Int) : Debugger :=
  { debugger with opcodes := debugger.opcodes.filter (· != Bits.lowWord opcode) }

/-- Adds a condition under the next number and gives that number. -/
def addCondition (condition : Condition) : Nat × Debugger :=
  (debugger.conditions.length,
    { debugger with conditions := debugger.conditions ++ [some condition] })

/-- A number that no condition has is ignored. -/
def removeCondition (number : Int) : Debugger :=
  if 0 ≤ number then
    { debugger with conditions := debugger.conditions.set number.toNat none }
  else debugger

def clearConditions : Debugger := { debugger with conditions := [] }

/-- The conditions that are left, with their numbers. -/
def listConditions : List (Nat × Condition) :=
  (debugger.conditions.mapIdx fun number entry => entry.map (number, ·)).filterMap id

def setStepMode (value : Bool) : Debugger := { debugger with stepMode := value }

def request : Debugger := { debugger with interrupt := true }

/-- Withdraws a request and forgets the last event. -/
def cancel : Debugger := { debugger with interrupt := false, lastEvent := none }

/-- Forgets everything but the last event. -/
def clear : Debugger := { lastEvent := debugger.lastEvent }

/-- The first condition that holds. -/
def firstHolding (machine : Machine) : List (Option Condition) →
    Except Fault (Option Condition)
  | [] => .ok none
  | none :: rest => firstHolding machine rest
  | some condition :: rest => do
      if ← condition.holds machine then return some condition
      firstHolding machine rest

/-- Stops before an instruction, or does not.  A request comes before step mode,
and each of the two stops once; then come addresses, opcodes and conditions. -/
def consult (machine : Machine) (pc opcode : Int) : Except Fault (Option Event × Debugger) :=
  let stop (debugger : Debugger) (reason : Reason) (message : String) :=
    let event : Event := ⟨reason, some pc, some opcode, message⟩
    (some event, { debugger with lastEvent := some event })
  if debugger.interrupt then
    .ok (stop { debugger with interrupt := false } .interrupt "User interrupt")
  else if debugger.stepMode then
    .ok (stop { debugger with stepMode := false } .step ("Step at " ++ dollar pc))
  else if debugger.addresses.contains pc then
    .ok (stop debugger .address ("Breakpoint at " ++ dollar pc))
  else if debugger.opcodes.contains opcode then
    .ok (stop debugger .opcode s!"Opcode {dollar opcode} at {dollar pc}")
  else
    match firstHolding machine debugger.conditions with
    | .error fault => .error fault
    | .ok none => .ok (none, debugger)
    | .ok (some condition) =>
        .ok (stop debugger .condition ("Condition: " ++ condition.description))

end Debugger

end ChipEight
