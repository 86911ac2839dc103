import ChipEight.Memory

namespace ChipEight.Memory

/-! Memory as rows of hexadecimal bytes.

A row starts with its offset, in decimal and in hexadecimal.
-/

open Text

def dumpRow (offset : Nat) (row : List UInt8) : String :=
  s!"{decimal 4 offset} {hex 3 offset}: " ++ " ".intercalate (row.map hexByte)

/-- Rows of a negative length are never reached, so there are none. -/
def dump (memory : Memory) (rowSize : Int) : Except Fault (List String) :=
  if rowSize = 0 then .error .zeroRow
  else if rowSize < 0 then .ok []
  else
    let size := rowSize.toNat
    .ok ((Slice.pieces size memory.toList).mapIdx fun row => dumpRow (row * size))

/-- The rows of a full report, 32 bytes each. -/
def dumpRows (memory : Memory) : List String :=
  (Slice.pieces 32 memory.toList).mapIdx fun row => dumpRow (row * 32)

end ChipEight.Memory
