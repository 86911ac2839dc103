import ChipEight.Debugger.Change
import ChipEight.Outcome

namespace ChipEight.Debugger

/-! What a host calls on a debugger, in any order.

A call that fails changes nothing, and the host may go on with the next one.
-/

inductive Call where
  | change (change : Change)
  /-- Adds a condition that has been read before. -/
  | add (condition : Condition)
  | consult (machine : Machine) (pc opcode : Int)
deriving DecidableEq, Repr

/-- The debugger that a call leaves, whether it returns or fails. -/
def call (debugger : Debugger) : Call → Debugger
  | .change change => Outcome.settle debugger (debugger.change change)
  | .add condition => (debugger.addCondition condition).2
  | .consult machine pc opcode =>
      Outcome.settle debugger (Prod.snd <$> debugger.consult machine pc opcode)

def calls (debugger : Debugger) (series : List Call) : Debugger := series.foldl call debugger

end ChipEight.Debugger
