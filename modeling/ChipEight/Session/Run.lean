import ChipEight.Session

namespace ChipEight.Session

/-! Running a session.

Before each instruction, the first one too, the debugger is consulted.  A fault
ends a run where it arises, with the instructions before it counted.
-/

open Text

def advance (session : Session) : Outcome Session Unit :=
  match session.machine.step with
  | .error fault machine => .error fault { session with machine }
  | .ok () machine => .ok () { session with machine, total := session.total + 1 }

/-- Executes one instruction without consulting the debugger. -/
def step (session : Session) : Outcome Session Event :=
  match session.advance with
  | .error fault left => .error fault left
  | .ok () after =>
      .ok ⟨.step, some after.machine.pc, some after.machine.opcode,
        "Step at " ++ dollar after.machine.pc⟩ after

/-- Consults the debugger about the instruction at the program counter. -/
def consult (session : Session) : Except Fault (Option Event × Session) := do
  let word ← session.machine.peek
  let (stop, debugger) ←
    session.debugger.consult session.machine session.machine.pc word.toNat
  return (stop, { session with debugger })

/-- One turn of a run: the event that stops it, or one instruction. -/
def turn (session : Session) : Outcome Session (Option Event) :=
  match session.consult with
  | .error fault => .error fault session
  | .ok (some event, stopped) => .ok (some event) stopped
  | .ok (none, going) =>
      match going.advance with
      | .error fault left => .error fault left
      | .ok () after => .ok none after

def runFor : Nat → Session → Outcome Session (Option Event)
  | 0, session => .ok none session
  | count + 1, session =>
      match session.turn with
      | .error fault left => .error fault left
      | .ok (some event) stopped => .ok (some event) stopped
      | .ok none after => runFor count after

/-- Runs until the debugger stops it or the budget is used up. -/
def run (session : Session) (budget : Int) : Outcome Session Event :=
  match runFor budget.toNat session with
  | .error fault left => .error fault left
  | .ok (some event) stopped => .ok event stopped
  | .ok none after =>
      .ok ⟨.budget, some after.machine.pc, none, s!"Reached max steps ({budget})"⟩ after

def mapDebugger (change : Debugger → Debugger) (session : Session) : Session :=
  { session with debugger := change session.debugger }

/-- Runs with a breakpoint at `address` that is gone afterwards, unless it was
there before, and tells whether it was reached. -/
def runTo (session : Session) (address budget : Int) : Outcome Session Bool :=
  let known := session.debugger.hasAddress address
  let before := if known then session else session.mapDebugger (·.addAddress address)
  let tidy (after : Session) : Session :=
    if known then after else after.mapDebugger (·.removeAddress address)
  match before.run budget with
  | .error fault left => .error fault (tidy left)
  | .ok event after =>
      .ok (event.reason == .address && event.address == some address) (tidy after)

/-- At most `count` turns, and whether any of them updated the screen. -/
def frameFor : Nat → Bool → Session → Outcome Session Bool
  | 0, updated, session => .ok updated session
  | count + 1, updated, session =>
      match session.turn with
      | .error fault left => .error fault left
      | .ok (some _) stopped => .ok updated stopped
      | .ok none after => frameFor count (updated || after.machine.updated) after

def frame (session : Session) : Outcome Session Bool :=
  frameFor session.cyclesPerFrame.toNat false session

/-- The addresses and words of the instructions a run executes, in order. -/
def trace : Nat → Session → List (Int × Word)
  | 0, _ => []
  | count + 1, session =>
      match session.machine.peek, session.turn with
      | .ok word, .ok none after => (session.machine.pc, word) :: trace count after
      | _, _ => []

def defaultBudget : Int := 100000

end ChipEight.Session
