import ChipEight.Machine
import ChipEight.Screen.Packed

namespace ChipEight.Machine

/-! The whole machine as a row of numbers.

Program counter, index and opcode take two bytes each, high byte first; then
come the timers, the registers, the depth of the stack and its entries from the
oldest on, memory, and the packed screen.  Whether the screen was just updated is
not kept.
-/

variable (machine : Machine)

def highLow (value : Int) : List Int := [value / 0x100 % 0x100, value % 0x100]

/-- The depth has one byte. -/
def snapshot : Except Fault (List Int) :=
  if 0xFF < machine.depth then .error (.stackTooDeep machine.depth)
  else .ok (
    highLow machine.pc ++ highLow machine.index ++ highLow machine.opcode ++
    [machine.delay, machine.sound] ++
    machine.registers.map (fun value => (value.toNat : Int)) ++
    (machine.depth : Int) :: machine.stack.reverse.flatMap highLow ++
    machine.memory.snapshot ++ machine.screen.snapshot)

/-- Two numbers as a word; neither has to be a byte. -/
def pairAt (data : List Int) (position : Int) : Except Fault Int := do
  let high ← Slice.element data position
  let low ← Slice.element data (position + 1)
  return Bits.union (high * 0x100) low

def pairsAt (data : List Int) (position : Int) : Nat → Except Fault (List Int)
  | 0 => .ok []
  | count + 1 => do
      let first ← pairAt data position
      let rest ← pairsAt data (position + 2) count
      return first :: rest

def headerSize : Nat := 8 + registerCount + 1

/-- The part of a snapshot in front of memory. -/
structure Header where
  pc : Int
  index : Int
  opcode : Int
  delay : Int
  sound : Int
  registers : List UInt8
  depth : Int
  /-- The entries from the oldest on. -/
  entries : List Int
deriving DecidableEq, Repr

namespace Header

/-- Nothing but the registers has to consist of bytes. -/
def read (data : List Int) (offset : Int) : Except Fault Header := do
  let length : Int := data.length
  if length - offset < headerSize then throw (.truncated .header)
  let pc ← pairAt data offset
  let index ← pairAt data (offset + 2)
  let opcode ← pairAt data (offset + 4)
  let delay ← Slice.element data (offset + 6)
  let sound ← Slice.element data (offset + 7)
  let registers ← bytesOf (Slice.window data (offset + 8) (offset + 8 + registerCount))
  let depth ← Slice.element data (offset + 8 + registerCount)
  let frames := offset + headerSize
  if length - frames < depth * 2 then throw (.truncated .stack)
  let entries ← pairsAt data frames depth.toNat
  return { pc, index, opcode, delay, sound, registers, depth, entries }

/-- The numbers a header takes; a negative depth gives some back. -/
def size (header : Header) : Int := headerSize + header.depth * 2

end Header

/-- Takes over the scalars, registers and stack of a header. -/
def withHeader (header : Header) : Machine :=
  { machine with
    pc := header.pc
    index := header.index
    opcode := header.opcode
    delay := header.delay
    sound := header.sound
    registers := header.registers
    stack := header.entries.reverse
    updated := false }

/-- Reads the machine from the numbers at `offset` and gives their count.  Memory is
written first, then the screen, and all else at the end; that there is enough for
both is made sure before. -/
def restore (data : List Int) (offset : Int) : Outcome Machine Int :=
  match Header.read data offset with
  | .error fault => .error fault machine
  | .ok header =>
      let blocks := offset + header.size
      if (data.length : Int) - blocks <
          machine.memory.size + machine.screen.packedSize then
        .error (.truncated .blocks) machine
      else
        match machine.memory.restore data blocks with
        | .error fault => .error fault machine
        | .ok memory =>
            let written := { machine with memory }
            match written.screen.restore data (blocks + memory.size) with
            | .error fault screen => .error fault { written with screen }
            | .ok taken screen =>
                .ok (header.size + memory.size + taken)
                  ({ written with screen }.withHeader header)

end ChipEight.Machine
