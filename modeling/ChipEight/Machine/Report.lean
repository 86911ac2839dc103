import ChipEight.Machine
import ChipEight.Memory.Dump
import ChipEight.Screen.Picture

namespace ChipEight.Machine

/-! The machine as text, for people. -/

open Text

variable (machine : Machine)

def registerLine : String :=
  String.join (machine.registers.mapIdx fun n value => s!"{decimal 2 n}={hexByte value}, ")

/-- Registers, memory and screen, each line ended. -/
def report : String :=
  "\n".intercalate (
    [s!"PC={hex 4 machine.pc}, IR={hex 4 machine.index}", machine.registerLine, "",
      "Memory: "] ++
    machine.memory.dumpRows ++
    ["", "Display:", machine.screen.text true]) ++ "\n"

def describe : String :=
  s!"Machine(pc={dollar machine.pc}, i={dollar machine.index}, " ++
    s!"opcode={dollar machine.opcode}, sp={machine.depth})"

end ChipEight.Machine
