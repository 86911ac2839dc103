import ChipEight.Debugger
import ChipEight.Directory
import ChipEight.Listing
import ChipEight.Machine.Snapshot
import ChipEight.Machine.Step

namespace ChipEight

/-! A machine with a debugger and a program, as a host keeps it.

The program is remembered, so that a reset can load it again, and executed
instructions are counted.
-/

structure Session where
  loadsFont : Bool
  cyclesPerFrame : Int
  machine : Machine
  debugger : Debugger
  /-- Instructions executed since the start or the last reset. -/
  total : Nat
  program : List UInt8
deriving DecidableEq, Repr

namespace Session

/-- A machine with the font, if it is asked for, and no program. -/
def start (loadsFont : Bool) (cyclesPerFrame : Int) : Except Fault Session := do
  if cyclesPerFrame < 1 then throw (.cyclesTooFew cyclesPerFrame)
  let machine ←
    if loadsFont then Machine.initial.loadFont (some Font.glyphs) else pure Machine.initial
  return {
    loadsFont, cyclesPerFrame, machine
    debugger := {}
    total := 0
    program := [] }

variable (session : Session)

def loadProgram (program : List UInt8) : Except Fault Session := do
  return { session with machine := ← session.machine.loadProgram program, program }

def loadFile (directory : Directory) (path : Path) : Except Fault Session := do
  if !(← directory.has path) then throw (.noProgram path.text)
  session.loadProgram (← directory.read path)

/-- Power-on state with the font and the program loaded again.  Breakpoints,
conditions and step mode stay. -/
def reset : Except Fault Session := do
  let blank := session.machine.reset
  let lettered ← if session.loadsFont then blank.loadFont (some Font.glyphs) else pure blank
  let machine ←
    if session.program.isEmpty then pure lettered else lettered.loadProgram session.program
  return { session with machine, total := 0, debugger := session.debugger.cancel }

/-- The snapshot in a file starts with four bytes of its own. -/
def signature : List UInt8 := [0x43, 0x38, 0x53, 0x01]

/-- The numbers in a snapshot file, its signature included. -/
def readSnapshot (directory : Directory) (path : Path) : Except Fault (List Int) := do
  if !(← directory.has path) then throw (.noSnapshot path.text)
  let file ← directory.read path
  if file.take signature.length ≠ signature then throw .badSignature
  return file.map fun byte => (byte.toNat : Int)

def save (directory : Directory) (path : Path) : Except Fault Directory := do
  let block ← bytesOf (← session.machine.snapshot)
  directory.write path (.bytes (signature ++ block))

/-- Restores the machine from a file; breakpoints and the count stay. -/
def restore (directory : Directory) (path : Path) : Outcome Session Unit :=
  match readSnapshot directory path with
  | .error fault => .error fault session
  | .ok data =>
      match session.machine.restore data signature.length with
      | .error fault machine => .error fault { session with machine }
      | .ok _ machine => .ok () { session with machine }

def readBytes (address count : Int) : Except Fault (List UInt8) :=
  session.machine.memory.readBlock address count

/-- The lines of a listing from `address`, or from the program counter on. -/
def listing (address : Option Int) (count : Int) : Except Fault (List String) := do
  let machine := session.machine
  let start := address.getD machine.pc
  let size := max 0 (min (count * 2) (machine.memory.size - start))
  let block ← machine.memory.readBlock start size
  return (← Listing.disassemble block start (some count) none).map Listing.Item.line

/-- Registers by name, the lettered ones first. -/
def registers : List (String × Int) :=
  let machine := session.machine
  (machine.registers.mapIdx fun x value =>
    ("v" ++ String.ofList (Nat.toDigits 16 x), (value.toNat : Int))) ++
  [("i", machine.index), ("pc", machine.pc), ("sp", machine.depth),
    ("delay_timer", machine.delay), ("sound_timer", machine.sound),
    ("opcode", machine.opcode)]

def describe : String :=
  s!"Emulator(pc={Text.dollar session.machine.pc}, steps={session.total}, " ++
    s!"rom={session.program.length} bytes)"

end Session

end ChipEight
