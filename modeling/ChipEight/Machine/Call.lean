import ChipEight.Machine.Snapshot
import ChipEight.Machine.Step
import ChipEight.Memory.Change
import ChipEight.Screen.Change

namespace ChipEight.Machine

/-! What a host may do to a machine, in any order.

A call that fails leaves what it has written before the fault, and the host may go
on with the next one.
-/

inductive Call where
  | setPc (value : Int)
  | setIndex (value : Int)
  | setDelay (value : Int)
  | setSound (value : Int)
  | pokeRegister (position value : Int)
  | push (address : Word)
  | memory (change : Memory.Change)
  | screen (change : Screen.Change)
  | loadFont (glyphs : Option (List UInt8))
  | loadProgram (program : List UInt8)
  | reset
  | step
  | restore (data : List UInt8) (offset : Nat)
deriving DecidableEq, Repr

/-- The machine that a call leaves, whether it returns or fails. -/
def call (machine : Machine) : Call → Machine
  | .setPc value => machine.setPc value
  | .setIndex value => machine.setIndex value
  | .setDelay value => machine.setDelay value
  | .setSound value => machine.setSound value
  | .pokeRegister position value =>
      Outcome.settle machine (machine.pokeRegister position value)
  | .push address => machine.push address.toNat
  | .memory change =>
      { machine with memory := Outcome.settle machine.memory (machine.memory.change change) }
  | .screen change => { machine with screen := machine.screen.change change }
  | .loadFont glyphs => Outcome.settle machine (machine.loadFont glyphs)
  | .loadProgram program => Outcome.settle machine (machine.loadProgram program)
  | .reset => machine.reset
  | .step => machine.step.state
  | .restore data offset =>
      (machine.restore (data.map fun byte => (byte.toNat : Int)) offset).state

def calls (machine : Machine) (series : List Call) : Machine := series.foldl call machine

end ChipEight.Machine
