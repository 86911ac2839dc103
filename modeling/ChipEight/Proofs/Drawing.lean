import ChipEight.Proofs.Execution
import ChipEight.Proofs.Packing

namespace ChipEight

/-! What a sprite does to each pixel.

The rows of a sprite are laid over the rows of the picture, and the bits of each over the pixels
of that row.  So a pixel has at most one bit above it, which its distances from the origin tell,
and a set bit inverts it.
-/

namespace Sprite

variable {α β : Type} {combine : α → β → α} {start place : Nat} {values : List α} {others : List β}

/-- What lies above a place, when a list is laid down from `start` on. -/
def above? (start : Nat) (others : List β) (place : Nat) : Option β :=
  if start ≤ place then others[place - start]? else none

theorem above?_eq_some_iff {other : β} :
    above? start others place = some other ↔
      ∃ distance, place = start + distance ∧ others[distance]? = some other := by
  unfold above?
  constructor
  · intro found
    split at found
    · next reached => exact ⟨place - start, by omega, found⟩
    · cases found
  · rintro ⟨distance, rfl, found⟩
    rw [if_pos (Nat.le_add_right ..), Nat.add_sub_cancel_left, found]

theorem getElem?_overlayFrom :
    (overlayFrom combine start values others)[place]? =
      values[place]?.map fun value => (above? start others place).elim value (combine value) := by
  by_cases inside : place < values.length
  · have length : (values.take start).length = min start values.length := List.length_take
    unfold overlayFrom above?
    by_cases reached : start ≤ place
    · rw [if_pos reached, List.getElem?_append_right (by omega), getElem?_overlay,
        List.getElem?_drop, length, Nat.min_eq_left (by omega), Nat.add_sub_cancel' reached]
      cases values[place]? <;> cases others[place - start]? <;> rfl
    · rw [if_neg reached, List.getElem?_append_left (by omega), List.getElem?_take_of_lt (by omega)]
      cases values[place]? <;> rfl
  · have beyond := Nat.not_lt.1 inside
    rw [List.getElem?_eq_none beyond, List.getElem?_eq_none (by rwa [length_overlayFrom])]
    rfl

theorem meets_iff {test : α → β → Bool} :
    meets test start values others = true ↔
      ∃ place value other, values[place]? = some value ∧ above? start others place = some other ∧
        test value other = true := by
  simp only [meets, List.any_eq_true, List.mem_iff_getElem?, List.getElem?_zip_eq_some,
    List.getElem?_drop, above?_eq_some_iff]
  constructor
  · rintro ⟨⟨value, other⟩, ⟨distance, found, laid⟩, holds⟩
    exact ⟨_, value, other, found, ⟨distance, rfl, laid⟩, holds⟩
  · rintro ⟨place, value, other, found, ⟨distance, rfl, laid⟩, holds⟩
    exact ⟨(value, other), ⟨distance, found, laid⟩, holds⟩

theorem getElem?_pixels_eq_some_iff {bits : UInt8} {column : Nat} {bit : Bool} :
    (pixels bits)[column]? = some bit ↔ column ≤ 7 ∧ bits.toNat.testBit (7 - column) = bit := by
  unfold pixels
  match column with
  | 0 | 1 | 2 | 3 | 4 | 5 | 6 | 7 => simp
  | column + 8 => simp

/-- The bit above a pixel, when a sprite is laid down from a column and a row on. -/
def bitAbove? (left top : Nat) (sprite : List UInt8) (column row : Nat) : Option Bool :=
  (above? top sprite row).bind fun bits => above? left (pixels bits) column

theorem bitAbove?_eq_some_iff {left top column row : Nat} {sprite : List UInt8} {bit : Bool} :
    bitAbove? left top sprite column row = some bit ↔
      ∃ r b bits, row = top + r ∧ column = left + b ∧ b ≤ 7 ∧ sprite[r]? = some bits ∧
        bits.toNat.testBit (7 - b) = bit := by
  simp only [bitAbove?, Option.bind_eq_some_iff, above?_eq_some_iff,
    getElem?_pixels_eq_some_iff]
  constructor
  · rintro ⟨bits, ⟨r, below, found⟩, b, right, short, same⟩
    exact ⟨r, b, bits, below, right, short, found, same⟩
  · rintro ⟨r, b, bits, below, right, short, found, same⟩
    exact ⟨bits, ⟨r, below, found⟩, b, right, short, same⟩

end Sprite

namespace Screen

open Sprite

variable {screen after : Screen} {x y : Int} {sprite : List UInt8} {column row across down : Nat}

/-- The bit of a sprite above a pixel, when the sprite is drawn at an origin. -/
def spriteBit? (screen : Screen) (x y : Int) (sprite : List UInt8) (column row : Nat) :
    Option Bool :=
  bitAbove? (wrapped screen.width x) (wrapped screen.height y) sprite column row

theorem pixel?_drawn :
    (screen.drawn x y sprite).pixel? column row =
      (screen.pixel? column row).map fun lit =>
        (screen.spriteBit? x y sprite column row).elim lit (xor lit) := by
  simp only [pixel?, drawn, getElem?_overlayFrom, spriteBit?, bitAbove?]
  cases screen.rows[row]? with
  | none => rfl
  | some pixelRow =>
      cases above? (wrapped screen.height y) sprite row with
      | none => simp
      | some bits => simp only [Option.map_some, Option.elim_some, Option.bind_some, drawRow,
          getElem?_overlayFrom]

theorem collides_iff :
    screen.collides x y sprite = true ↔
      ∃ column row, screen.pixel? column row = some true ∧
        screen.spriteBit? x y sprite column row = some true := by
  simp only [collides, erasesInRow, meets_iff, spriteBit?, bitAbove?, pixel?, Bool.and_eq_true,
    Option.bind_eq_some_iff]
  constructor
  · rintro ⟨row, pixelRow, bits, found, laid, column, lit, bit, shown, above, rfl, rfl⟩
    exact ⟨column, row, ⟨pixelRow, found, shown⟩, bits, laid, above⟩
  · rintro ⟨column, row, ⟨pixelRow, found, shown⟩, bits, laid, above⟩
    exact ⟨row, pixelRow, bits, found, laid, column, true, true, shown, above, rfl, rfl⟩

theorem SameShape.measures (shape : after.SameShape screen)
    (measures : screen.Measures across down) : after.Measures across down where
  width := shape.width.trans measures.width
  height := shape.height.trans measures.height
  rows := shape.length_rows.trans measures.rows
  columns := shape.columns measures.columns

theorem Measures.pixel?_inside (measures : screen.Measures across down)
    (inColumns : column < across) (inRows : row < down) :
    screen.pixel? column row = some (screen.lit column row) := by
  have there : row < screen.rows.length := by rwa [measures.rows]
  have length := measures.columns _ (List.getElem_mem there)
  simp only [lit, pixel?, List.getElem?_eq_getElem there, Option.bind_some]
  rw [List.getElem?_eq_getElem (by omega), Option.getD_some]

theorem Measures.inside_of_pixel? (measures : screen.Measures across down) {lit : Bool}
    (found : screen.pixel? column row = some lit) : column < across ∧ row < down := by
  obtain ⟨pixelRow, foundRow, foundPixel⟩ := Option.bind_eq_some_iff.1 found
  have length := measures.columns pixelRow (List.mem_of_getElem? foundRow)
  have inRows := (List.getElem?_eq_some_iff.1 foundRow).1
  have inColumns := (List.getElem?_eq_some_iff.1 foundPixel).1
  rw [measures.rows] at inRows
  rw [length] at inColumns
  exact ⟨inColumns, inRows⟩

theorem wrapped_cast {extent : Int} (positive : 0 < extent) (origin : Int) :
    (wrapped extent origin : Int) = origin % extent := by
  have low : 0 ≤ origin % extent := Int.emod_nonneg origin (by omega)
  rw [wrapped, Int.fmod_eq_emod_of_nonneg origin (by omega), Int.toNat_of_nonneg low]

/-- A sprite at an origin has a row and in it a set bit for this pixel. -/
def Hits (screen : Screen) (x y : Int) (sprite : List UInt8) (column row : Nat) : Prop :=
  ∃ (r b : Nat) (bits : UInt8), (row : Int) - y % screen.height = r ∧
    (column : Int) - x % screen.width = b ∧ b ≤ 7 ∧ sprite[r]? = some bits ∧
      bits.toNat.testBit (7 - b) = true

theorem spriteBit?_eq_some_true_iff (wide : 0 < screen.width) (high : 0 < screen.height) :
    screen.spriteBit? x y sprite column row = some true ↔ screen.Hits x y sprite column row := by
  have left := wrapped_cast wide x
  have top := wrapped_cast high y
  rw [spriteBit?, bitAbove?_eq_some_iff, Hits, ← left, ← top]
  constructor
  · rintro ⟨r, b, bits, below, right, short, found, set⟩
    exact ⟨r, b, bits, by omega, by omega, short, found, set⟩
  · rintro ⟨r, b, bits, below, right, short, found, set⟩
    exact ⟨r, b, bits, by omega, by omega, short, found, set⟩

theorem lit_drawn_of_hits (wide : 0 < screen.width) (high : 0 < screen.height)
    {lit : Bool} (shown : screen.pixel? column row = some lit)
    (hits : screen.Hits x y sprite column row) :
    (screen.drawn x y sprite).lit column row = !lit := by
  have set := (spriteBit?_eq_some_true_iff wide high).2 hits
  rw [Screen.lit, pixel?_drawn, shown, set]
  exact Bool.xor_true lit

theorem lit_drawn_of_not_hits (wide : 0 < screen.width) (high : 0 < screen.height)
    (misses : ¬ screen.Hits x y sprite column row) :
    (screen.drawn x y sprite).lit column row = screen.lit column row := by
  rw [← spriteBit?_eq_some_true_iff wide high] at misses
  simp only [Screen.lit, pixel?_drawn]
  cases bit : screen.spriteBit? x y sprite column row with
  | none => simp
  | some set =>
      cases set with
      | true => exact absurd bit misses
      | false => simp

/-- Drawing inverts the pixels that a sprite hits and no others, on a screen of any size and from
any place.  A collision is a pixel that is hit while it is lit. -/
theorem draw_inverts_hits (measures : screen.Measures across down) (wide : 1 ≤ across)
    (high : 1 ≤ down) (x y : Int) (sprite : List UInt8) :
    ∃ collision after, screen.draw x y sprite = .ok (collision, after) ∧
      after.Measures across down ∧
      (∀ column < across, ∀ row < down,
        (screen.Hits x y sprite column row → after.lit column row = !screen.lit column row) ∧
          (¬ screen.Hits x y sprite column row → after.lit column row = screen.lit column row)) ∧
      (collision = true ↔
        ∃ column row, column < across ∧ row < down ∧ screen.Hits x y sprite column row ∧
          screen.lit column row = true) := by
  have width : 0 < screen.width := by rw [measures.width]; omega
  have height : 0 < screen.height := by rw [measures.height]; omega
  refine ⟨screen.collides x y sprite, screen.drawn x y sprite, ?_, ?_, ?_, ?_⟩
  · rw [draw, if_neg (by omega)]
  · exact (screen.drawn_sameShape x y sprite).measures measures
  · intro column inColumns row inRows
    have shown := measures.pixel?_inside inColumns inRows
    exact ⟨lit_drawn_of_hits width height shown, lit_drawn_of_not_hits width height⟩
  · simp only [collides_iff, spriteBit?_eq_some_true_iff width height]
    constructor
    · rintro ⟨column, row, shown, hits⟩
      obtain ⟨inColumns, inRows⟩ := measures.inside_of_pixel? shown
      refine ⟨column, row, inColumns, inRows, hits, ?_⟩
      rw [lit, shown, Option.getD_some]
    · rintro ⟨column, row, inColumns, inRows, hits, lit⟩
      exact ⟨column, row, lit ▸ measures.pixel?_inside inColumns inRows, hits⟩

/-- On five columns and three rows, the origin above and left of the first pixel is the last one.
All but one pixel of the sprite are cut off there. -/
theorem draw_inverts_last_pixel :
    ∃ screen : Screen, screen.Measures 5 3 ∧ 1 ≤ 5 ∧ 1 ≤ 3 ∧ screen.lit 4 2 = true ∧
      ∃ after, screen.draw (-1) (-1) [0xFF, 0xFF] = .ok (true, after) ∧
        after.lit 4 2 = false ∧ after.lit 0 0 = screen.lit 0 0 := by
  let screen : Screen :=
    { blank 5 3 with
      rows := List.replicate 2 (List.replicate 5 false) ++ [[false, false, false, false, true]] }
  have measures : screen.Measures 5 3 :=
    { width := rfl
      height := rfl
      rows := rfl
      columns := by decide }
  obtain ⟨collision, after, drawn, -, pixels, collides⟩ :=
    draw_inverts_hits measures (by decide) (by decide) (-1) (-1) [0xFF, 0xFF]
  have hits : screen.Hits (-1) (-1) [0xFF, 0xFF] 4 2 := ⟨0, 0, 0xFF, rfl, rfl, by decide, rfl, rfl⟩
  have misses : ¬ screen.Hits (-1) (-1) [0xFF, 0xFF] 0 0 := by
    rintro ⟨r, b, bits, below, -⟩
    change (0 : Int) - 2 = r at below
    omega
  obtain rfl := collides.2 ⟨4, 2, by decide, by decide, hits, rfl⟩
  exact ⟨screen, measures, by decide, by decide, rfl, after, drawn,
    (pixels 4 (by decide) 2 (by decide)).1 hits, (pixels 0 (by decide) 0 (by decide)).2 misses⟩

end Screen

end ChipEight
