import ChipEight.Proofs.Drawing

namespace ChipEight.Screen

/-! Drawing sprite after sprite.

Which pixels a sprite inverts depends on the extent of a picture and not on what it shows.  So it
makes no difference which of two sprites is drawn first, and a sprite that is drawn twice is gone.
-/

variable {screen left right : Screen}

/-- A sprite and the origin at which it is drawn. -/
structure Stamp where
  x : Int
  y : Int
  sprite : List UInt8
deriving DecidableEq, Repr

/-- Draws one sprite after the other, whether or not they collide. -/
def drawAll (screen : Screen) : List Stamp → Except Fault Screen
  | [] => .ok screen
  | stamp :: rest => do
      let (_, after) ← screen.draw stamp.x stamp.y stamp.sprite
      after.drawAll rest

def stamped (screen : Screen) (stamp : Stamp) : Screen :=
  screen.drawn stamp.x stamp.y stamp.sprite

/-- Whether a sprite inverts a pixel. -/
def inverts (screen : Screen) (stamp : Stamp) (column row : Nat) : Bool :=
  (screen.spriteBit? stamp.x stamp.y stamp.sprite column row).getD false

@[simp] theorem inverts_stamped (screen : Screen) (first second : Stamp) :
    (screen.stamped first).inverts second = screen.inverts second := rfl

theorem pixel?_stamped (screen : Screen) (stamp : Stamp) (column row : Nat) :
    (screen.stamped stamp).pixel? column row =
      (screen.pixel? column row).map (xor (screen.inverts stamp column row)) := by
  rw [stamped, pixel?_drawn, inverts]
  congr 1
  funext lit
  cases screen.spriteBit? stamp.x stamp.y stamp.sprite column row with
  | none => exact (Bool.false_xor lit).symm
  | some bit => exact Bool.xor_comm lit bit

@[simp] theorem length_rows_stamped (screen : Screen) (stamp : Stamp) :
    (screen.stamped stamp).rows.length = screen.rows.length :=
  (screen.drawn_sameShape stamp.x stamp.y stamp.sprite).length_rows

/-- Two pictures of one extent are the same if all their pixels are. -/
theorem eq_of_pixels (width : left.width = right.width) (height : left.height = right.height)
    (count : left.rows.length = right.rows.length)
    (pixels : ∀ column row, left.pixel? column row = right.pixel? column row) : left = right := by
  have rows : left.rows = right.rows := by
    refine List.ext_getElem count fun row inLeft inRight => List.ext_getElem? fun column => ?_
    simpa [pixel?, inLeft, inRight] using pixels column row
  rw [mk.injEq]
  exact ⟨width, height, rows⟩

/-- A pixel is inverted by one of them, by both or by neither, in either order. -/
theorem stamped_comm (screen : Screen) (first second : Stamp) :
    (screen.stamped first).stamped second = (screen.stamped second).stamped first := by
  refine eq_of_pixels rfl rfl (by simp) fun column row => ?_
  simp only [pixel?_stamped, inverts_stamped, Option.map_map]
  congr 1
  funext lit
  exact Bool.xor_left_comm ..

theorem stamped_stamped (screen : Screen) (stamp : Stamp) :
    (screen.stamped stamp).stamped stamp = screen := by
  refine eq_of_pixels rfl rfl (by simp) fun column row => ?_
  simp only [pixel?_stamped, inverts_stamped, Option.map_map]
  cases screen.pixel? column row with
  | none => rfl
  | some lit => simp

theorem foldl_stamped_perm {stamps others : List Stamp} (same : stamps.Perm others)
    (screen : Screen) : stamps.foldl stamped screen = others.foldl stamped screen :=
  same.foldl_eq' (fun first _ second _ picture => stamped_comm picture first second) screen

/-- By induction on the list: its first sprite is moved to where it is drawn for the second time. -/
theorem foldl_stamped_twice (stamps : List Stamp) (screen : Screen) :
    (stamps ++ stamps).foldl stamped screen = screen := by
  induction stamps generalizing screen with
  | nil => rfl
  | cons stamp rest induction =>
      have moved : (stamp :: rest ++ stamp :: rest).Perm (stamp :: stamp :: (rest ++ rest)) :=
        List.perm_middle.cons stamp
      rw [foldl_stamped_perm moved, List.foldl_cons, List.foldl_cons, stamped_stamped, induction]

theorem draw_eq (wide : 1 ≤ screen.width) (high : 1 ≤ screen.height) (x y : Int)
    (sprite : List UInt8) :
    screen.draw x y sprite = .ok (screen.collides x y sprite, screen.stamped ⟨x, y, sprite⟩) := by
  rw [draw, if_neg (by omega)]
  rfl

theorem drawAll_eq (wide : 1 ≤ screen.width) (high : 1 ≤ screen.height) (stamps : List Stamp) :
    screen.drawAll stamps = .ok (stamps.foldl stamped screen) := by
  induction stamps generalizing screen with
  | nil => rfl
  | cons stamp rest induction =>
      rw [drawAll, draw_eq wide high, ok_bind, List.foldl_cons]
      exact @induction (screen.stamped stamp) wide high

/-- A sprite that has just been drawn collides with the pixels it has turned on. -/
theorem collides_stamped_iff (screen : Screen) (stamp : Stamp) :
    (screen.stamped stamp).collides stamp.x stamp.y stamp.sprite = true ↔
      ∃ column row, screen.pixel? column row = some false ∧
        (screen.stamped stamp).pixel? column row = some true := by
  have bit (column row : Nat) :
      (screen.stamped stamp).spriteBit? stamp.x stamp.y stamp.sprite column row = some true ↔
        screen.inverts stamp column row = true := by
    change screen.spriteBit? stamp.x stamp.y stamp.sprite column row = some true ↔ _
    rw [inverts, Option.getD_eq_iff]
    simp
  simp only [collides_iff, bit, pixel?_stamped]
  refine exists_congr fun column => exists_congr fun row => ?_
  cases screen.pixel? column row with
  | none => simp
  | some lit => cases lit <;> simp

/-- Sprites that are drawn once more are gone, and the order they are drawn in is of no account.  The
second drawing of a sprite collides where the first one has lit a pixel. -/
theorem drawing_is_involution (wide : 1 ≤ screen.width) (high : 1 ≤ screen.height)
    (stamps : List Stamp) :
    (∃ last, screen.drawAll stamps = .ok last ∧
      (∀ others, others.Perm stamps → screen.drawAll others = .ok last) ∧
      screen.drawAll (stamps ++ stamps) = .ok screen) ∧
    ∀ x y sprite, ∃ collided once again,
      screen.draw x y sprite = .ok (collided, once) ∧
      once.draw x y sprite = .ok (again, screen) ∧
      (again = true ↔
        ∃ column row, screen.pixel? column row = some false ∧
          once.pixel? column row = some true) := by
  refine ⟨⟨_, drawAll_eq wide high stamps, fun others same => ?_, ?_⟩, fun x y sprite => ?_⟩
  · rw [drawAll_eq wide high, foldl_stamped_perm same]
  · rw [drawAll_eq wide high, foldl_stamped_twice]
  · have second := @draw_eq (screen.stamped ⟨x, y, sprite⟩) wide high x y sprite
    rw [stamped_stamped] at second
    exact ⟨_, _, _, draw_eq wide high x y sprite, second, collides_stamped_iff screen ⟨x, y, sprite⟩⟩

/-- The first sprite is cut off behind its first two pixels, and the second one wraps to the last
pixel and goes out there with it.  Either order leaves one pixel, and each sprite is gone when it is
drawn again. -/
theorem redrawing_last_pixel :
    let screen := blank 5 3
    let wide : Stamp := ⟨3, 2, [0xFF, 0xFF]⟩
    let corner : Stamp := ⟨-1, -1, [0x80]⟩
    1 ≤ screen.width ∧ 1 ≤ screen.height ∧ ∃ last, screen.drawAll [wide, corner] = .ok last ∧
      screen.drawAll [corner, wide] = .ok last ∧ last.litCount = 1 ∧ last.lit 3 2 = true ∧
      screen.drawAll [wide, corner, wide, corner] = .ok screen ∧
      ∃ once, screen.draw 3 2 [0xFF, 0xFF] = .ok (false, once) ∧
        once.draw 3 2 [0xFF, 0xFF] = .ok (true, screen) := by
  intro screen wide corner
  have extent : 1 ≤ screen.width ∧ 1 ≤ screen.height := by decide
  obtain ⟨⟨last, drawn, anyOrder, twice⟩, again⟩ :=
    drawing_is_involution extent.1 extent.2 [wide, corner]
  obtain ⟨collided, once, second, first, redrawn, collides⟩ := again 3 2 [0xFF, 0xFF]
  have made : screen.draw 3 2 [0xFF, 0xFF] = .ok (false, screen.drawn 3 2 [0xFF, 0xFF]) := rfl
  cases made.symm.trans first
  obtain rfl := collides.2 ⟨3, 2, by decide, by decide⟩
  have pictured : screen.drawAll [wide, corner] =
      .ok { screen with rows := [List.replicate 5 false, List.replicate 5 false,
        [false, false, false, true, false]] } := rfl
  cases pictured.symm.trans drawn
  exact ⟨extent.1, extent.2, _, drawn, anyOrder [corner, wide] (List.Perm.swap ..), rfl, rfl, twice,
    _, made, redrawn⟩

end ChipEight.Screen
