import ChipEight.Screen

namespace ChipEight

/-! Drawing sprites.

A sprite is one byte per row, leftmost pixel in the high bit.  Its origin wraps
around the screen and its body does not: laying one list over another stops
where either ends, and that is the clipping at the right and the bottom edge.
-/

namespace Sprite

variable {α β : Type}

/-- The pixels of a sprite row, from the left. -/
def pixels (row : UInt8) : List Bool :=
  [7, 6, 5, 4, 3, 2, 1, 0].map fun place => row.toNat.testBit place

/-- Combines two lists as far as both reach and keeps the rest of the first. -/
def overlay (combine : α → β → α) : List α → List β → List α
  | value :: values, other :: others => combine value other :: overlay combine values others
  | values, _ => values

def overlayFrom (combine : α → β → α) (start : Nat) (values : List α) (others : List β) :
    List α :=
  values.take start ++ overlay combine (values.drop start) others

theorem getElem?_overlay (combine : α → β → α) (values : List α) (others : List β) (place : Nat) :
    (overlay combine values others)[place]? =
      match values[place]?, others[place]? with
      | some value, some other => some (combine value other)
      | value, _ => value := by
  fun_induction overlay combine values others generalizing place with
  | case1 value values other others induction =>
      cases place with
      | zero => rfl
      | succ place => simpa using induction place
  | case2 values others apart =>
      cases values with
      | nil => simp
      | cons value values =>
          cases others with
          | nil => simp
          | cons other others => exact absurd rfl (apart value values other others rfl)

@[simp] theorem length_overlay (combine : α → β → α) (values : List α) (others : List β) :
    (overlay combine values others).length = values.length := by
  fun_induction overlay combine values others <;> simp_all

@[simp] theorem length_overlayFrom (combine : α → β → α) (start : Nat) (values : List α)
    (others : List β) : (overlayFrom combine start values others).length = values.length := by
  simp only [overlayFrom, List.length_append, length_overlay, List.length_take, List.length_drop]
  omega

/-- Whether a test holds of some pair that an overlay combines. -/
def meets (test : α → β → Bool) (start : Nat) (values : List α) (others : List β) : Bool :=
  ((values.drop start).zip others).any fun pair => test pair.1 pair.2

def drawRow (column : Nat) (pixelRow : List Bool) (row : UInt8) : List Bool :=
  overlayFrom xor column pixelRow (pixels row)

def erasesInRow (column : Nat) (pixelRow : List Bool) (row : UInt8) : Bool :=
  meets and column pixelRow (pixels row)

end Sprite

namespace Screen

open Sprite

variable (screen : Screen)

/-- The screen coordinate that an origin wraps to. -/
def wrapped (extent origin : Int) : Nat := (origin.fmod extent).toNat

/-- Inverts the pixels under the lit pixels of a sprite. -/
def drawn (x y : Int) (sprite : List UInt8) : Screen :=
  { screen with
    rows := overlayFrom (drawRow (wrapped screen.width x)) (wrapped screen.height y)
      screen.rows sprite }

/-- Whether a sprite turns a lit pixel off. -/
def collides (x y : Int) (sprite : List UInt8) : Bool :=
  meets (erasesInRow (wrapped screen.width x)) (wrapped screen.height y) screen.rows sprite

/-- Draws a sprite and tells whether it collided.  An origin cannot wrap around a
screen without extent. -/
def draw (x y : Int) (sprite : List UInt8) : Except Fault (Bool × Screen) :=
  if screen.width = 0 ∨ screen.height = 0 then .error .emptyScreen
  else .ok (screen.collides x y sprite, screen.drawn x y sprite)

end Screen

end ChipEight
