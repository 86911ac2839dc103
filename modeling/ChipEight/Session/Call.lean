import ChipEight.Debugger.Change
import ChipEight.Session.Run

namespace ChipEight.Session

/-! What a host calls while a program is loaded, in any order.

A call that fails keeps what it has done before the fault, and the host may go on
with the next one.
-/

inductive Call where
  | step
  | run (budget : Int)
  | runTo (address budget : Int)
  | frame
  | debug (change : Debugger.Change)
deriving DecidableEq, Repr

/-- The session that a call leaves, whether it returns or fails. -/
def call (session : Session) : Call → Session
  | .step => session.step.state
  | .run budget => (session.run budget).state
  | .runTo address budget => (session.runTo address budget).state
  | .frame => session.frame.state
  | .debug change =>
      match session.debugger.change change with
      | .error _ => session
      | .ok debugger => { session with debugger }

def calls (session : Session) (series : List Call) : Session := series.foldl call session

end ChipEight.Session
