import ChipEight.Font
import ChipEight.Instruction
import ChipEight.Memory
import ChipEight.Screen

namespace ChipEight

/-! The state of the machine and the ways to write it from outside.

Program counter and index hold sixteen bits and the timers eight: every write
but a restored snapshot masks to that.  The stack may hold any numbers, the most
recent first, and a return masks what it takes.
-/

structure Machine where
  pc : Int
  index : Int
  opcode : Int
  delay : Int
  sound : Int
  registers : List UInt8
  stack : List Int
  memory : Memory
  screen : Screen
  /-- Whether the last instruction touched the screen. -/
  updated : Bool
deriving DecidableEq, Repr

namespace Machine

def programStart : Nat := 0x200

def memorySize : Nat := 0x1000

def programRoom : Nat := memorySize - programStart

def flagRegister : Nibble := ⟨0xF, by decide⟩

def registerCount : Nat := 16

def initial : Machine where
  pc := programStart
  index := 0
  opcode := 0
  delay := 0
  sound := 0
  registers := List.replicate registerCount 0
  stack := []
  memory := .zeroed memorySize
  screen := .standard
  updated := false

/-- Every field within its declared width, on a screen and a memory of the
standard size. -/
structure WellFormed (machine : Machine) : Prop where
  pc : 0 ≤ machine.pc ∧ machine.pc < 0x10000
  index : 0 ≤ machine.index ∧ machine.index < 0x10000
  delay : 0 ≤ machine.delay ∧ machine.delay < 0x100
  sound : 0 ≤ machine.sound ∧ machine.sound < 0x100
  registers : machine.registers.length = registerCount
  memory : machine.memory.size = memorySize
  width : machine.screen.width = 64
  height : machine.screen.height = 32
  rows : machine.screen.rows.length = 32
  columns : ∀ row ∈ machine.screen.rows, row.length = 64

variable (machine : Machine)

def depth : Nat := machine.stack.length

def setPc (value : Int) : Machine := { machine with pc := Bits.lowWord value }

def setIndex (value : Int) : Machine := { machine with index := Bits.lowWord value }

def setDelay (value : Int) : Machine := { machine with delay := value % 0x100 }

def setSound (value : Int) : Machine := { machine with sound := value % 0x100 }

def push (value : Int) : Machine := { machine with stack := value :: machine.stack }

def register (x : Nibble) : Except Fault UInt8 :=
  match machine.registers[x.val]? with
  | some value => .ok value
  | none => .error .registerOutside

def setRegister (x : Nibble) (value : UInt8) : Except Fault Machine :=
  if x.val < machine.registers.length then
    .ok { machine with registers := machine.registers.set x.val value }
  else .error .registerOutside

def flag : Except Fault UInt8 := machine.register flagRegister

/-- Stores a number in a register that may be counted from the end; the number is
looked at before the register. -/
def pokeRegister (position value : Int) : Except Fault Machine :=
  match Slice.element machine.registers position with
  | .error .positionTooLarge => .error .positionTooLarge
  | found =>
      if value < 0 ∨ 255 < value then .error .notRegisterByte
      else
        match found with
        | .error _ => .error .registerOutside
        | .ok _ =>
            let place := if position < 0 then position + machine.registers.length else position
            .ok { machine with
              registers := machine.registers.set place.toNat (Bits.lowByte value) }

def store (address : Int) (block : List UInt8) : Except Fault Machine := do
  return { machine with memory := ← machine.memory.load address block }

def storeByte (address value : Int) : Except Fault Machine := do
  return { machine with memory := ← machine.memory.write address value }

def setPixel (x y : Int) (lit : Bool) : Except Fault Machine := do
  return { machine with screen := ← machine.screen.write x y lit }

/-- The state after power-on; also a loaded font is gone. -/
def reset : Machine :=
  { initial with memory := machine.memory.clear, screen := machine.screen.clear }

/-- Glyphs are taken only if there are as many as the font has. -/
def loadFont (glyphs : Option (List UInt8)) : Except Fault Machine :=
  match glyphs with
  | none => .error (.fontLength none)
  | some table =>
      if table.length = Font.size then machine.store Font.start table
      else .error (.fontLength (some table.length))

/-- Copies a program to its start and points the program counter at it. -/
def loadProgram (program : List UInt8) : Except Fault Machine :=
  if programRoom < program.length then .error (.programTooLong program.length)
  else do
    let loaded ← machine.store programStart program
    return loaded.setPc programStart

end Machine

end ChipEight
