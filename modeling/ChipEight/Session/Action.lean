import ChipEight.Machine.Call
import ChipEight.Session.Call

namespace ChipEight.Session

/-! What a host may do to a session, in any order.

Besides the calls there is the machine itself, which lies open: a host may use it directly
or write what it likes into it.  Memory and picture have their own ways to be written, and
nothing replaces them.
-/

/-- What a session is made from. -/
structure Config where
  program : Option Path
  loadsFont : Bool
  cyclesPerFrame : Int
deriving DecidableEq, Repr

def create (directory : Directory) (config : Config) : Except Fault Session := do
  let started ← start config.loadsFont config.cyclesPerFrame
  match config.program with
  | none => return started
  | some path => started.loadFile directory path

/-- A new session with a program, if there is one. -/
def anew (loadsFont : Bool) (cyclesPerFrame : Int) (image : Option (List UInt8)) :
    Except Fault Session := do
  let started ← start loadsFont cyclesPerFrame
  match image with
  | none => return started
  | some program => started.loadProgram program

inductive Action where
  | call (call : Call)
  | machine (call : Machine.Call)
  /-- Writes over all of the machine but its memory and its picture. -/
  | overwrite (values : Machine)
  | loadProgram (program : List UInt8)
  | loadFile (directory : Directory) (path : Path)
  | reset
  | restore (directory : Directory) (path : Path)
deriving DecidableEq, Repr

/-- The session that an action leaves, whether it succeeds or fails. -/
def act (session : Session) : Action → Session
  | .call call => session.call call
  | .machine call => { session with machine := session.machine.call call }
  | .overwrite values =>
      let { memory, screen, .. } := session.machine
      { session with machine := { values with memory, screen } }
  | .loadProgram program => Outcome.settle session (session.loadProgram program)
  | .loadFile directory path => Outcome.settle session (session.loadFile directory path)
  | .reset => Outcome.settle session session.reset
  | .restore directory path => (session.restore directory path).state

def acts (session : Session) (series : List Action) : Session := series.foldl act session

/-- The program that an action loads, if it succeeds in that. -/
def loads? (session : Session) : Action → Option (List UInt8)
  | .loadProgram program =>
      match session.loadProgram program with
      | .ok _ => some program
      | .error _ => none
  | .loadFile directory path =>
      match directory.read path, session.loadFile directory path with
      | .ok program, .ok _ => some program
      | _, _ => none
  | _ => none

/-- The last program loaded in a series of actions, or else the one before. -/
def lastLoaded (session : Session) (before : Option (List UInt8)) :
    List Action → Option (List UInt8)
  | [] => before
  | action :: rest => (session.act action).lastLoaded ((session.loads? action).or before) rest

/-- The program that a session is made with. -/
def Config.image? (config : Config) (directory : Directory) : Option (List UInt8) :=
  match config.program.map directory.read with
  | some (.ok program) => some program
  | _ => none

end ChipEight.Session
