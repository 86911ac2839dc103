import ChipEight.Screen
import ChipEight.Screen.Colour
import ChipEight.Text.Number

namespace ChipEight

/-! The screen as text and as a coloured picture. -/

/-- Cells of one colour each, in rows of the same length.  Every cell is shown as
a square of `scale` by `scale` pixels, and is kept once however large that is. -/
structure Picture where
  scale : Nat
  cells : List (List Colour)
deriving DecidableEq, Repr

namespace Picture

variable (picture : Picture)

def columns : Nat := (picture.cells.head?.map List.length).getD 0

def width : Nat := picture.columns * picture.scale

def height : Nat := picture.cells.length * picture.scale

def enlargeRow {α : Type} (scale : Nat) (row : List α) : List α :=
  row.flatMap (List.replicate scale)

/-- The pixels, row by row. -/
def rows : List (List Colour) :=
  enlargeRow picture.scale (picture.cells.map (enlargeRow picture.scale))

/-- A picture wider than this has rows too long to be addressed. -/
def widest : Nat := 536870910

/-- More pixels than this are not to be had. -/
def mostPixels : Nat := 0x400000000

/-- An enlarged picture has to have an extent in both directions, and room. -/
def checkEnlarged (width height : Int) : Except Fault Unit := do
  Signed.short width
  Signed.short height
  if width < 1 ∨ height < 1 then throw .flatPicture
  if widest < width ∨ mostPixels < width * height then throw .pictureTooLarge

end Picture

namespace Screen

variable (screen : Screen)

def textRows (lit unlit : String) : List String :=
  screen.rows.map fun row => String.join (row.map fun pixel => if pixel then lit else unlit)

def standardTextRows : List String := screen.textRows "#" "."

/-- The last digits of the column numbers. -/
def ruler : String :=
  String.join ((List.range screen.width.toNat).map fun column => s!"{column % 10}")

def text (withRuler : Bool) : String :=
  "\n".intercalate ((if withRuler then [screen.ruler] else []) ++ screen.standardTextRows)

/-- What a canvas for the screen needs, before anything is painted on it. -/
def checkCanvas : Except Fault Unit := do
  if screen.width < 0 ∨ screen.height < 0 then throw .negativePicture
  Signed.short screen.width
  Signed.short screen.height
  if Picture.widest < screen.width then throw .noRoom

/-- Every pixel becomes a square of `scale` by `scale`.  The canvas comes first, then
the inks, that of the lit pixels only if there are any, and then the enlargement.  A
picture without an extent is refused when it is enlarged, or else when it is drawn. -/
def picture (scale : Int) (foreground background : Ink) : Except Fault Picture := do
  if scale < 1 then throw (.scaleTooSmall scale)
  screen.checkCanvas
  let unlit ← background.colour
  let lit ← if screen.isBlank then pure unlit else foreground.colour
  if scale ≠ 1 ∧ ¬(screen.width = 0 ∧ screen.height = 0) then
    Picture.checkEnlarged (screen.width * scale) (screen.height * scale)
  if screen.width = 0 ∨ screen.height = 0 then throw .nothingToDraw
  return {
    scale := scale.toNat
    cells := screen.rows.map fun row => row.map fun pixel => if pixel then lit else unlit }

def describe : String :=
  s!"Display({screen.width}x{screen.height}, lit={screen.litCount})"

end Screen

end ChipEight
