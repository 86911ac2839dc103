import ChipEight.Fault

namespace ChipEight.Signed

/-! Numbers that have to fit a signed word.

Most numbers here have no limit.  Sizes, positions, extents and colours do, since
a host keeps them in words of 64 or 32 bits.
-/

/-- The first number that is too large for so many bits. -/
def limit (bits : Nat) : Nat := 1 <<< (bits - 1)

/-- Whether a number can be written in two's complement with so many bits. -/
def fits (bits : Nat) (value : Int) : Bool :=
  -(limit bits : Int) ≤ value && value < (limit bits : Int)

/-- A number for a word of 32 bits goes through one of 64 bits first, so there are
two ways of being too large. -/
def short (value : Int) : Except Fault Unit :=
  if !fits 64 value then .error .beyondLongWord
  else if fits 32 value then .ok ()
  else .error (if value < 0 then .belowWord else .aboveWord)

end ChipEight.Signed
