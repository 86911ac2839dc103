import ChipEight.Command.Address
import ChipEight.Command.Response
import ChipEight.Listing

namespace ChipEight.Command

/-! Listing a program image. -/

open Text

namespace Lister

def output : Switch := ⟨"--output", some 'o', true⟩

def address : Switch := ⟨"--address", some 'a', true⟩

def count : Switch := ⟨"--count", some 'c', true⟩

def showHex : Switch := ⟨"--hex", none, false⟩

def noBytes : Switch := ⟨"--no-bytes", none, false⟩

def verbose : Switch := ⟨"--verbose", some 'v', false⟩

def switches : List Switch := [output, address, count, showHex, noBytes, verbose]

structure Options where
  image : Path
  output : Option Path
  address : String
  count : Option Int
  showHex : Bool
  noBytes : Bool
  verbose : Bool
deriving DecidableEq, Repr

def check (library : Library) (line : Line) (directory : Directory) (switch : Switch) :
    Reading Unit := do
  if switch = output then discard (optional line output (library.target directory))
  if switch = count then discard (optional line count (library.count 0))

/-- The address is not looked at here; it is the listing that needs it. -/
def readOptions (library : Library) (line : Line) (directory : Directory) : Reading Options := do
  line.order.forM (check library line directory)
  let image ← readOperand line (library.source directory)
  return {
    image
    output := ← optional line output (library.target directory)
    address := (line.value? address).getD "0x200"
    count := ← optional line count (library.count 0)
    showHex := line.has showHex
    noBytes := line.has noBytes
    verbose := line.has verbose }

/-- A byte as a character, where it is one that ASCII prints. -/
def printedByte (byte : UInt8) : Char :=
  if 0x20 ≤ byte ∧ byte < 0x7F then Char.ofNat byte.toNat else '.'

def hexRow (address : Int) (row : List UInt8) : String :=
  let bytes := padRight 48 (" ".intercalate (row.map hexByte))
  s!"; {dollar address}: {bytes} " ++ String.ofList (row.map printedByte)

def hexRule : String := "; " ++ String.ofList (List.replicate 60 '-')

/-- The image in rows of sixteen bytes, each a comment of the listing. -/
def hexDump (image : List UInt8) (address : Int) : List String :=
  ["; Hex dump:", hexRule] ++
  ((Slice.pieces 16 image).mapIdx fun row => hexRow (address + row * 16)) ++
  [hexRule, ""]

def header (options : Options) (image : List UInt8) (address : Int) : List String :=
  [s!"; Disassembly of {options.image.name}", s!"; Size: {image.length} bytes",
    s!"; Base address: {dollar address}", ""]

def lines (options : Options) (image : List UInt8) (address : Int)
    (items : List Listing.Item) : List String :=
  header options image address ++
  (if options.showHex then hexDump image address else []) ++
  items.map fun item => if options.noBytes then item.shortLine else item.line

def note (options : Options) (text : String) : String :=
  if options.verbose then shown (text ++ "\n") else ""

/-- The base address and the bytes of an image that has any. -/
def load (options : Options) (directory : Directory) : Except Fault (Int × List UInt8) := do
  let address ← readAddress options.address
  let image ← directory.read options.image
  if image.isEmpty then throw (.emptyProgram options.image.text)
  return (address, image)

def fail (fault : Fault) (stderr : String) (directory : Directory) : Response :=
  .finished fault.kind.verdict "" (stderr ++ complaint fault.kind fault.message "") directory

def run (options : Options) (directory : Directory) : Response :=
  match load options directory with
  | .error fault => fail fault "" directory
  | .ok (address, image) =>
      let before :=
        note options s!"Input file: {options.image.text} ({image.length} bytes)" ++
        note options s!"Base address: {dollar address}"
      match Listing.disassemble image address options.count none with
      | .error fault => fail fault before directory
      | .ok items =>
          let text := "\n".intercalate (lines options image address items) ++ "\n"
          let after := note options s!"Instructions disassembled: {items.length}"
          match options.output with
          | none => .finished .success (shown text) (before ++ after) directory
          | some path =>
              match directory.write path (.bytes text.toUTF8.toList) with
              | .error fault => fail fault before directory
              | .ok written =>
                  .finished .success ""
                    (before ++ note options s!"Output written to: {path.text}" ++ after) written

/-- Reads the line and lists what it asks for. -/
def work (library : Library) (line : Line) (directory : Directory) : Response :=
  match readOptions library line directory with
  | .error refusal => refusal.response directory
  | .ok options => run options directory

end Lister

def lister : Tool where
  name := "chip8disasm"
  summary := "Disassemble a CHIP-8 program image."
  switches := Lister.switches
  fileSwitches := [Lister.output]
  work := Lister.work

end ChipEight.Command
