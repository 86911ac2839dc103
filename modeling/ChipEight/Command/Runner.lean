import ChipEight.Command.Address
import ChipEight.Command.Response
import ChipEight.Machine.Report
import ChipEight.Session.Run

namespace ChipEight.Command

/-! Running a program without a display.

The machine is reported, runs for a number of instructions or up to a
breakpoint, and is reported again.
-/

namespace Runner

def cycles : Switch := ⟨"--cycles", some 'n', true⟩

def noFont : Switch := ⟨"--no-font", none, false⟩

def breakAt : Switch := ⟨"--break", some 'b', true⟩

def png : Switch := ⟨"--png", none, true⟩

def scale : Switch := ⟨"--scale", none, true⟩

def quiet : Switch := ⟨"--quiet", some 'q', false⟩

def verbose : Switch := ⟨"--verbose", some 'v', false⟩

def switches : List Switch := [cycles, noFont, breakAt, png, scale, quiet, verbose]

/-- Enough for a well-known logo program to finish drawing. -/
def defaultCycles : Int := 39

def defaultScale : Int := 10

structure Options where
  program : Path
  cycles : Int
  loadsFont : Bool
  breaks : List Int
  png : Option Path
  scale : Int
  quiet : Bool
  verbose : Bool
deriving DecidableEq, Repr

def readBreaks (texts : List String) : Reading (List Int) :=
  texts.mapM fun text => (readAddress text).mapError fun fault => .misuse (some fault.message)

/-- Looks at the values of one option. -/
def check (library : Library) (line : Line) (directory : Directory) (switch : Switch) :
    Reading Unit := do
  if switch = cycles then discard (optional line cycles (library.count 0))
  if switch = breakAt then discard (readBreaks (line.values breakAt))
  if switch = png then discard (optional line png (library.target directory))
  if switch = scale then discard (optional line scale (library.count 1))

/-- Options are looked at in the order they are given in, and then the operand. -/
def readOptions (library : Library) (line : Line) (directory : Directory) : Reading Options := do
  line.order.forM (check library line directory)
  let program ← readOperand line (library.source directory)
  return {
    program
    cycles := (← optional line cycles (library.count 0)).getD defaultCycles
    loadsFont := !line.has noFont
    breaks := ← readBreaks (line.values breakAt)
    png := ← optional line png (library.target directory)
    scale := (← optional line scale (library.count 1)).getD defaultScale
    quiet := line.has quiet
    verbose := line.has verbose }

/-- Records for everyone carry their level only among those for the curious. -/
def info (options : Options) (text : String) : String :=
  if options.verbose then s!"INFO: {text}\n" else s!"{text}\n"

def debug (options : Options) (text : String) : String :=
  if options.verbose then s!"DEBUG: {text}\n" else ""

def load (options : Options) (directory : Directory) : Except Fault Session := do
  let fresh ← Session.start options.loadsFont 10
  let loaded ← fresh.loadFile directory options.program
  return loaded.mapDebugger fun debugger => options.breaks.foldl .addAddress debugger

def fontRecord (options : Options) : String :=
  if options.loadsFont then debug options "Font loaded at $0050" else ""

def loadRecord (options : Options) (session : Session) : String :=
  let size := session.program.length
  debug options s!"Loaded {size} byte ROM at $0200" ++
    info options s!"Loaded {options.program.name} ({size} bytes)"

def traceRecord (options : Options) (session : Session) : String :=
  if options.verbose then
    String.join ((session.trace options.cycles.toNat).map fun (address, word) =>
      debug options s!"{Text.dollar address}: {Text.hex 4 word.toNat}")
  else ""

def heading (title : String) (session : Session) : String :=
  s!"{title}:\n{session.machine.report}\n"

def fail (fault : Fault) (stdout stderr : String) (directory : Directory) : Response :=
  .finished fault.kind.verdict stdout
    (stderr ++ complaint fault.kind fault.message "Emulation") directory

/-- Writes the last picture, if it is wanted. -/
def finish (options : Options) (directory : Directory) (session : Session)
    (stdout stderr : String) : Response :=
  match options.png with
  | none => .finished .success stdout stderr directory
  | some path =>
      let written := do
        let picture ← session.machine.screen.picture options.scale .white .black
        directory.write path (.picture picture)
      match written with
      | .error fault => fail fault stdout stderr directory
      | .ok after =>
          .finished .success stdout
            (stderr ++ info options s!"Wrote display to {path.text}") after

def run (options : Options) (directory : Directory) : Response :=
  match load options directory with
  | .error fault => fail fault "" (fontRecord options) directory
  | .ok session =>
      let before := if options.quiet then "" else heading "Initial" session
      let records := fontRecord options ++ loadRecord options session ++
        traceRecord options session
      match session.run options.cycles with
      | .error fault _ => fail fault before records directory
      | .ok event after =>
          let result := heading s!"After {after.total} cycles" after
          if event.reason = .budget then
            finish options directory after (before ++ result) records
          else
            finish options directory after
              (before ++ s!"Stopped: {event.text}\n" ++ result)
              (records ++ debug options s!"Stopped after {after.total} steps: {event.text}")

/-- Reads the line and runs what it asks for. -/
def work (library : Library) (line : Line) (directory : Directory) : Response :=
  match readOptions library line directory with
  | .error refusal => refusal.response directory
  | .ok options => run options directory

end Runner

def runner : Tool where
  name := "chip8run"
  summary := "Run a CHIP-8 program and dump the machine state."
  switches := Runner.switches
  fileSwitches := [Runner.png]
  work := Runner.work

end ChipEight.Command
