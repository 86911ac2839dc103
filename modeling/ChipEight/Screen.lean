import ChipEight.Signed
import ChipEight.Bits

namespace ChipEight

/-! A monochrome picture, drawn on by exclusive-or.

Rows run from the top and pixels from the left.  The width and height are kept
as they were asked for; where one is not positive there are no pixels.
-/

structure Screen where
  width : Int
  height : Int
  rows : List (List Bool)
deriving DecidableEq, Repr

namespace Screen

variable (screen : Screen)

def blank (width height : Int) : Screen :=
  ⟨width, height, List.replicate height.toNat (List.replicate width.toNat false)⟩

/-- More pixels than this are not to be had. -/
def mostPixels : Nat := 0x10000000

/-- A blank screen.  Its width is of no account where there is no row. -/
def ofSize (width height : Int) : Except Fault Screen :=
  if height ≤ 0 then .ok ⟨width, height, []⟩
  else if !Signed.fits 64 width then .error .sizeTooLarge
  else if mostPixels < width.toNat * height.toNat then .error .noRoom
  else .ok (blank width height)

/-- The screen of the machine. -/
def standard : Screen := blank 64 32

def clear : Screen :=
  { screen with rows := screen.rows.map fun row => row.map fun _ => false }

def litCount : Nat := screen.rows.flatten.countP id

def isBlank : Bool := !screen.rows.any fun row => row.any id

/-- The pixel in column `x` of row `y`; none outside the picture. -/
def pixel? (x y : Nat) : Option Bool := screen.rows[y]?.bind (·[x]?)

def lit (x y : Nat) : Bool := (screen.pixel? x y).getD false

def covers (x y : Int) : Except Fault Unit :=
  if 0 ≤ x ∧ x < screen.width ∧ 0 ≤ y ∧ y < screen.height then .ok ()
  else .error (.pixelOutside x y screen.width screen.height)

def read (x y : Int) : Except Fault Bool := do
  screen.covers x y
  return screen.lit x.toNat y.toNat

def write (x y : Int) (lit : Bool) : Except Fault Screen := do
  screen.covers x y
  return { screen with rows := screen.rows.modify y.toNat (·.set x.toNat lit) }

end Screen

end ChipEight
