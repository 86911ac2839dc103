import ChipEight.Text.Number

namespace ChipEight

/-! Everything that can go wrong, by cause.

A fault carries the addresses, words and counts involved, so that a host can
report it without looking at the machine again.  `kind` groups the causes for
hosts that treat a family of them alike; `message` is the wording.
-/

/-- The part of a snapshot that a truncated one has no room for. -/
inductive SnapshotPart where
  | header
  | stack
  | blocks
  | memory
  | display
deriving DecidableEq, Repr

def SnapshotPart.label : SnapshotPart → String
  | .header => "machine header"
  | .stack => "stack"
  | .blocks => "memory or display block"
  | .memory => "memory block"
  | .display => "display block"

inductive Fault where
  /-- An access of `length` bytes that leaves a memory of `size` bytes. -/
  | outsideMemory (address length : Int) (size : Nat)
  | fetchOutsideMemory (address : Int)
  | spriteOutsideMemory (address rows : Int)
  | programTooLong (length : Nat)
  | fontLength (received : Option Nat)
  | emptyStack (address : Int)
  | unknownOpcode (opcode address : Int)
  /-- A return performed directly, without the check that precedes a step. -/
  | nothingToReturnTo
  | noListing (opcode : Int)
  | noOperationListing (operation : Nat)
  | pixelOutside (x y width height : Int)
  | emptyScreen
  | scaleTooSmall (scale : Int)
  | negativePicture
  | flatPicture
  | pictureTooLarge
  | nothingToDraw
  /-- A number that does not fit the long word it is kept in. -/
  | beyondLong
  /-- A number that is bound for a short word and does not even fit a long one. -/
  | beyondLongWord
  | aboveWord
  | belowWord
  | sizeTooLarge
  | noRoom
  | stackTooDeep (depth : Nat)
  | truncated (part : SnapshotPart)
  | badSignature
  | notBytes
  | notRegisterByte
  | registerOutside
  | positionOutside
  | positionTooLarge
  | byteOutside
  | offsetBeyond (offset : Int) (length : Nat)
  | zeroStep
  | zeroRow
  | negativeSize
  | scatteredWrite
  | resizingWrite
  | unknownRegister (name : String)
  | unknownOperator (symbol : String)
  | cyclesTooFew (cycles : Int)
  | noProgram (path : String)
  | noSnapshot (path : String)
  | emptyProgram (path : String)
  | invalidAddress (text : String)
  | addressOutOfRange (text : String)
  | noSuchFile (quoted : String)
  | isDirectory (quoted : String)
  | notDirectory (quoted : String)
  | nameTooLong (quoted : String)
  | nulInName
deriving DecidableEq, Repr

inductive FaultKind where
  | machine
  | argument
  | bounds
  | emptyStack
  | unknownOpcode
  | parameter
  | missingFile
  | permission
  | value
  | position
  | key
  | division
  | directory
  | notDirectory
  | fileSystem
  | overflow
  | memory
  | system
  | unexpected
deriving DecidableEq, Repr

namespace Fault

open Text

def kind : Fault → FaultKind
  | .outsideMemory .. | .fetchOutsideMemory .. | .spriteOutsideMemory ..
  | .programTooLong .. => .bounds
  | .fontLength .. => .argument
  | .emptyStack .. => .emptyStack
  | .unknownOpcode .. => .unknownOpcode
  | .nothingToReturnTo | .pixelOutside .. | .registerOutside | .positionOutside
  | .positionTooLarge | .byteOutside => .position
  | .noOperationListing .. => .key
  | .emptyScreen => .division
  | .nothingToDraw => .system
  | .beyondLong | .beyondLongWord | .aboveWord | .belowWord | .sizeTooLarge => .overflow
  | .noRoom => .memory
  | .invalidAddress .. | .addressOutOfRange .. | .emptyProgram .. => .parameter
  | .noProgram .. | .noSnapshot .. | .noSuchFile .. => .missingFile
  | .isDirectory .. => .directory
  | .notDirectory .. => .notDirectory
  | .nameTooLong .. => .fileSystem
  | _ => .value

/-- The address and length of an access that left memory. -/
def extent : Fault → Option (Int × Int)
  | .outsideMemory address length _ => some (address, length)
  | .fetchOutsideMemory address => some (address, 2)
  | .spriteOutsideMemory address rows => some (address, rows)
  | .programTooLong length => some (0x200, length)
  | _ => none

def message : Fault → String
  | .outsideMemory address length size =>
      s!"access of {length} byte(s) at {dollar address} is outside memory " ++
        s!"($0000-{dollar (size - 1)})"
  | .fetchOutsideMemory address => s!"PC ({dollar address}) is out of memory bounds."
  | .spriteOutsideMemory address rows =>
      s!"Sprite read of {rows} byte(s) at I={dollar address} runs past end of memory"
  | .programTooLong length => s!"ROM is {length} bytes, at most 3584 fit from $0200"
  | .fontLength none => "Font data should be 80 bytes, received None."
  | .fontLength (some received) => s!"Font data should be 80 bytes, received {received}."
  | .emptyStack address => s!"return with empty stack at {dollar address}"
  | .unknownOpcode opcode address =>
      s!"unknown opcode {dollar opcode} at {dollar address}"
  | .nothingToReturnTo => "pop from empty list"
  | .noListing opcode => s!"No format for opcode {dollar opcode}"
  | .noOperationListing operation => s!"{operation}"
  | .pixelOutside x y width height =>
      s!"Pixel ({x}, {y}) outside {width}x{height} display"
  | .emptyScreen => "integer modulo by zero"
  | .scaleTooSmall scale => s!"Scale must be at least 1, got {scale}"
  | .negativePicture => "Width and height must be >= 0"
  | .flatPicture => "height and width must be > 0"
  | .pictureTooLarge => "image has wrong mode"
  | .nothingToDraw => "tile cannot extend outside image"
  | .beyondLong => "int too big to convert"
  | .beyondLongWord => "Python int too large to convert to C long"
  | .aboveWord => "signed integer is greater than maximum"
  | .belowWord => "signed integer is less than minimum"
  | .sizeTooLarge => "cannot fit 'int' into an index-sized integer"
  | .noRoom => ""
  | .stackTooDeep depth => s!"Stack depth {depth} too deep to snapshot"
  | .truncated part => s!"Snapshot truncated in {part.label}"
  | .badSignature => "Invalid snapshot format (bad header)"
  | .notBytes => "bytes must be in range(0, 256)"
  | .notRegisterByte => "byte must be in range(0, 256)"
  | .registerOutside => "bytearray index out of range"
  | .positionOutside => "list index out of range"
  | .positionTooLarge => "cannot fit 'int' into an index-sized integer"
  | .byteOutside => "index out of range"
  | .offsetBeyond offset length => s!"Offset {offset} beyond data length {length}"
  | .zeroStep => "slice step cannot be zero"
  | .zeroRow => "range() arg 3 must not be zero"
  | .negativeSize => "negative count"
  | .scatteredWrite => "memory slice assignment must be contiguous"
  | .resizingWrite => "memory slice assignment cannot change memory size"
  | .unknownRegister name => s!"Unknown register: {name}"
  | .unknownOperator symbol => s!"Unknown operator: {symbol}"
  | .cyclesTooFew cycles => s!"cycles_per_frame must be at least 1, got {cycles}"
  | .noProgram path => s!"ROM file not found: {path}"
  | .noSnapshot path => s!"Snapshot file not found: {path}"
  | .emptyProgram path => s!"{path} is empty"
  | .invalidAddress text => s!"Invalid address '{text}'"
  | .addressOutOfRange text =>
      s!"Address must be 0-65535 (0x0000-0xFFFF), got {text}"
  | .noSuchFile quoted => s!"[Errno 2] No such file or directory: {quoted}"
  | .isDirectory quoted => s!"[Errno 21] Is a directory: {quoted}"
  | .notDirectory quoted => s!"[Errno 20] Not a directory: {quoted}"
  | .nameTooLong quoted => s!"[Errno 36] File name too long: {quoted}"
  | .nulInName => "embedded null byte"

end Fault

end ChipEight
