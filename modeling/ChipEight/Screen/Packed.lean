import ChipEight.Outcome
import ChipEight.Screen
import ChipEight.Slice

namespace ChipEight.Screen

/-! The picture packed eight pixels to a byte.

The leftmost pixel is the high bit.  A row starts a new byte, so the last byte of
a row may have unused low bits.
-/

variable (screen : Screen)

/-- Pixels of less than a byte are its high bits. -/
def packByte : Nat → List Bool → Nat
  | 0, _ => 0
  | _, [] => 0
  | places + 1, pixel :: rest => (if pixel then 1 <<< places else 0) + packByte places rest

theorem packByte_lt (places : Nat) (pixels : List Bool) : packByte places pixels < 1 <<< places := by
  fun_induction packByte places pixels with
  | case1 => simp
  | case2 places =>
      rw [Nat.one_shiftLeft]
      exact Nat.two_pow_pos places
  | case3 places pixel rest induction =>
      rw [Nat.one_shiftLeft] at induction ⊢
      rw [Nat.one_shiftLeft]
      split <;> omega

/-- A packed number holds the pixels from its highest bit on, and nothing else. -/
theorem testBit_packByte (places : Nat) (pixels : List Bool) {index : Nat}
    (inside : index < places) :
    (packByte places pixels).testBit (places - 1 - index) = pixels.getD index false := by
  fun_induction packByte places pixels generalizing index with
  | case1 => omega
  | case2 => simp
  | case3 places pixel rest induction =>
      have small := packByte_lt places rest
      rw [Nat.one_shiftLeft] at small ⊢
      cases index with
      | zero => cases pixel <;> simp [Nat.testBit_two_pow_add_eq, Nat.testBit_lt_two_pow small]
      | succ index =>
          have place : places + 1 - 1 - (index + 1) = places - 1 - index := by omega
          rw [place]
          have lower := @induction index (by omega)
          cases pixel with
          | false => simpa using lower
          | true =>
              simp only [if_true]
              rw [Nat.testBit_two_pow_add_gt (by omega)]
              simpa using lower

def packRow (row : List Bool) : List Nat := (Slice.pieces 8 row).map (packByte 8)

def packed : List Nat := screen.rows.flatMap packRow

def snapshot : List Int := screen.packed.map Int.ofNat

/-- The bytes the packed picture takes. -/
def packedSize : Int := (screen.width + 7).fdiv 8 * screen.height

def unpackByte (byte : Int) : List Bool :=
  [7, 6, 5, 4, 3, 2, 1, 0].map fun place => Bits.bit byte place

/-- Fills the pieces of a row, each from one number.  Where there is no number, the
pieces from there on stay as they are. -/
def fillPieces (data : List Int) : Int → List (List Bool) → Outcome (List (List Bool)) Unit
  | _, [] => .ok () []
  | position, piece :: rest =>
      match Slice.element data position with
      | .error fault => .error fault (piece :: rest)
      | .ok byte =>
          let filled := (unpackByte byte).take piece.length
          match fillPieces data (position + 1) rest with
          | .error fault left => .error fault (filled :: left)
          | .ok () others => .ok () (filled :: others)

def fillRows (data : List Int) : Int → List (List Bool) → Outcome (List (List Bool)) Unit
  | _, [] => .ok () []
  | position, row :: rest =>
      let pieces := Slice.pieces 8 row
      match fillPieces data position pieces with
      | .error fault left => .error fault (left.flatten :: rest)
      | .ok () filled =>
          match fillRows data (position + pieces.length) rest with
          | .error fault left => .error fault (filled.flatten :: left)
          | .ok () others => .ok () (filled.flatten :: others)

/-- Reads the picture from the numbers at `offset` and gives their count. -/
def restore (data : List Int) (offset : Int) : Outcome Screen Int :=
  if (data.length : Int) - offset < screen.packedSize then
    .error (.truncated .display) screen
  else
    match fillRows data offset screen.rows with
    | .error fault rows => .error fault { screen with rows }
    | .ok () rows => .ok screen.packedSize { screen with rows }

end ChipEight.Screen
