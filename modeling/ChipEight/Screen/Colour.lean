import ChipEight.Signed

namespace ChipEight

/-! Colours, and the inks that stand for them. -/

structure Colour where
  red : UInt8
  green : UInt8
  blue : UInt8
deriving DecidableEq, Repr

/-- A component outside the range of a byte is moved to its nearer end. -/
def Colour.component (value : Int) : UInt8 := UInt8.ofNat (min value.toNat 255)

/-- A colour as it is asked for, with components of any size. -/
structure Ink where
  red : Int
  green : Int
  blue : Int
deriving DecidableEq, Repr

namespace Ink

def white : Ink := ⟨255, 255, 255⟩

def black : Ink := ⟨0, 0, 0⟩

/-- The nearest colour.  Red may take a long word, the other two a short one. -/
def colour (ink : Ink) : Except Fault Colour := do
  if !Signed.fits 64 ink.red then throw .beyondLong
  Signed.short ink.green
  Signed.short ink.blue
  return ⟨Colour.component ink.red, Colour.component ink.green, Colour.component ink.blue⟩

end Ink

end ChipEight
