import ChipEight.Bits

namespace ChipEight.Font

/-! The glyphs of the hexadecimal digits.

A glyph is four pixels wide and five rows tall; a row stands in the high nibble
of one byte, leftmost pixel first.  The machine keeps the table at `start`.
-/

def start : Nat := 0x050

def rowsPerGlyph : Nat := 5

def glyphs : List UInt8 :=
  [0xF0, 0x90, 0x90, 0x90, 0xF0,
   0x20, 0x60, 0x20, 0x20, 0x70,
   0xF0, 0x10, 0xF0, 0x80, 0xF0,
   0xF0, 0x10, 0xF0, 0x10, 0xF0,
   0x90, 0x90, 0xF0, 0x10, 0x10,
   0xF0, 0x80, 0xF0, 0x10, 0xF0,
   0xF0, 0x80, 0xF0, 0x90, 0xF0,
   0xF0, 0x10, 0x20, 0x40, 0x40,
   0xF0, 0x90, 0xF0, 0x90, 0xF0,
   0xF0, 0x90, 0xF0, 0x10, 0xF0,
   0xF0, 0x90, 0xF0, 0x90, 0x90,
   0xE0, 0x90, 0xE0, 0x90, 0xE0,
   0xF0, 0x80, 0x80, 0x80, 0xF0,
   0xE0, 0x90, 0x90, 0x90, 0xE0,
   0xF0, 0x80, 0xF0, 0x80, 0xF0,
   0xF0, 0x80, 0xF0, 0x80, 0x80]

def size : Nat := 80

theorem length_glyphs : glyphs.length = size := rfl

/-- Where the glyph of a digit stands in a table at `table`; only the low nibble
of the digit counts. -/
def address (digit : Int) (table : Int) : Int := table + digit % 16 * rowsPerGlyph

/-- The digit whose glyph starts at an address, if one does. -/
def glyphAt? (target : Nat) : Option Nat :=
  if start ≤ target ∧ target < start + size ∧ (target - start) % rowsPerGlyph = 0 then
    some ((target - start) / rowsPerGlyph)
  else none

end ChipEight.Font
