import ChipEight.Memory
import ChipEight.Outcome

namespace ChipEight.Memory

/-! The ways to write a memory. -/

inductive Change where
  | write (address value : Int)
  | load (address : Int) (block : List UInt8)
  | writeSlice (start stop step : Option Int) (block : List UInt8)
  | clear
  | restore (data : List Int) (offset : Int)
deriving DecidableEq, Repr

def change (memory : Memory) : Change → Except Fault Memory
  | .write address value => memory.write address value
  | .load address block => memory.load address block
  | .writeSlice start stop step block => memory.writeSlice start stop step block
  | .clear => .ok memory.clear
  | .restore data offset => memory.restore data offset

/-- The memory after a series of changes, each made as a whole or not at all. -/
def changes (memory : Memory) (series : List Change) : Memory :=
  series.foldl (fun memory change => Outcome.settle memory (memory.change change)) memory

end ChipEight.Memory
