import ChipEight.Proofs.Drawing
import ChipEight.Proofs.Loading
import ChipEight.Proofs.Step

namespace ChipEight

/-! What a step that draws a sprite makes of the machine.

The rows below the bottom edge are counted off before anything is read, when the step is checked
and again when it is executed.  A picture has no place for those rows, so the sprite may as well
be read whole, with zeros where memory has ended.
-/

namespace Sprite

variable {α β : Type} (combine : α → β → α) (test : α → β → Bool) (start : Nat)
  (values : List α) (others : List β)

theorem overlay_take : overlay combine values (others.take values.length) =
    overlay combine values others := by
  induction values generalizing others with
  | nil => simp [overlay]
  | cons value values induction =>
      cases others with
      | nil => rfl
      | cons other others => simp only [List.length_cons, List.take_succ_cons, overlay, induction]

theorem overlayFrom_take :
    overlayFrom combine start values (others.take (values.length - start)) =
      overlayFrom combine start values others := by
  rw [overlayFrom, ← List.length_drop, overlay_take, overlayFrom]

theorem meets_take :
    meets test start values (others.take (values.length - start)) =
      meets test start values others := by
  have zipped (values : List α) : values.zip (others.take values.length) = values.zip others := by
    calc values.zip (others.take values.length)
        = (values.take values.length).zip (others.take values.length) := by rw [List.take_length]
      _ = (values.zip others).take values.length := List.take_zipWith.symm
      _ = values.zip others := List.take_of_length_le (by rw [List.length_zip]; omega)
  rw [meets, ← List.length_drop, zipped, meets]

end Sprite

namespace Screen

open Sprite

variable {screen : Screen} {x y : Int} {across down column row : Nat} {lit : Bool}
  {sprite : List UInt8}

/-- Rows of a sprite that come below the bottom edge make no difference. -/
theorem drawn_take (screen : Screen) (x y : Int) (sprite : List UInt8) :
    screen.drawn x y (sprite.take (screen.rows.length - wrapped screen.height y)) =
      screen.drawn x y sprite := by
  rw [drawn, overlayFrom_take, drawn]

theorem collides_take (screen : Screen) (x y : Int) (sprite : List UInt8) :
    screen.collides x y (sprite.take (screen.rows.length - wrapped screen.height y)) =
      screen.collides x y sprite := by
  rw [collides, meets_take, collides]

theorem Measures.pixel?_eq_some_iff (measures : screen.Measures across down) :
    screen.pixel? column row = some lit ↔
      column < across ∧ row < down ∧ screen.lit column row = lit := by
  constructor
  · intro found
    obtain ⟨inColumns, inRows⟩ := measures.inside_of_pixel? found
    exact ⟨inColumns, inRows, by rw [Screen.lit, found, Option.getD_some]⟩
  · rintro ⟨inColumns, inRows, rfl⟩
    exact measures.pixel?_inside inColumns inRows

theorem lit_drawn (measures : screen.Measures across down) (inColumns : column < across)
    (inRows : row < down) :
    (screen.drawn x y sprite).lit column row =
      xor (screen.lit column row) ((screen.spriteBit? x y sprite column row).getD false) := by
  rw [Screen.lit, pixel?_drawn, measures.pixel?_inside inColumns inRows]
  cases screen.spriteBit? x y sprite column row <;> simp

end Screen

namespace Machine

open Screen

variable {machine after : Machine} {other : Memory} {word : Word} {column row : Nat}

theorem WellFormed.measures (formed : machine.WellFormed) : machine.screen.Measures 64 32 :=
  ⟨formed.width, formed.height, formed.rows, formed.columns⟩

theorem WellFormed.withMemory (formed : machine.WellFormed)
    (size : other.size = machine.memory.size) :
    ({ machine with memory := other } : Machine).WellFormed :=
  { formed with memory := size.trans formed.memory }

/-- All rows of the sprite that a word draws, those below the bottom edge too. -/
def sprite (machine : Machine) (word : Word) : List UInt8 :=
  machine.memory.blockAt machine.index.toNat word.n.val

/-- The bit that a word has its sprite lay over a pixel; none counts as not set. -/
def spriteBit (machine : Machine) (word : Word) (column row : Nat) : Bool :=
  let left := (machine.value word.x).toNat % 64
  let top := (machine.value word.y).toNat % 32
  decide (left ≤ column ∧ column ≤ left + 7 ∧ top ≤ row ∧ row < top + word.n.val) &&
    (machine.memory.byteAt (machine.index.toNat + (row - top))).toNat.testBit (7 - (column - left))

theorem WellFormed.spriteBit_eq (formed : machine.WellFormed) (word : Word) (column row : Nat) :
    (machine.screen.spriteBit? (machine.value word.x).toNat (machine.value word.y).toNat
      (machine.sprite word) column row).getD false = machine.spriteBit word column row := by
  rw [Bool.eq_iff_iff, Option.getD_eq_iff, Screen.spriteBit?, formed.left_eq, formed.top_eq]
  simp only [Sprite.bitAbove?_eq_some_iff, Machine.spriteBit, Machine.sprite, Bool.and_eq_true,
    decide_eq_true_eq, Bool.false_eq_true, and_false, or_false]
  constructor
  · rintro ⟨r, b, bits, below, right, short, found, set⟩
    rw [Memory.getElem?_blockAt] at found
    split at found
    · next inside =>
      cases found
      refine ⟨⟨by omega, by omega, by omega, by omega⟩, ?_⟩
      rw [below, right, Nat.add_sub_cancel_left, Nat.add_sub_cancel_left]
      exact set
    · cases found
  · rintro ⟨⟨right, short, below, inside⟩, set⟩
    refine ⟨row - (machine.value word.y).toNat % 32, column - (machine.value word.x).toNat % 64, _,
      by omega, by omega, by omega, ?_, set⟩
    rw [Memory.getElem?_blockAt, if_pos (by omega)]

/-- The machine after a word has drawn its sprite, all rows of it. -/
def withSprite (machine : Machine) (word : Word) : Machine :=
  let left : Int := (machine.value word.x).toNat
  let top : Int := (machine.value word.y).toNat
  let sprite := machine.sprite word
  { machine with
    registers := machine.registers.set flagRegister.val
      (if machine.screen.collides left top sprite then 1 else 0)
    screen := machine.screen.drawn left top sprite
    updated := true }

/-- The rows on the screen are enough of the sprite. -/
theorem WellFormed.withSprite_eq (formed : machine.WellFormed) (word : Word) :
    machine.withSprite word =
      let left : Int := (machine.value word.x).toNat
      let top : Int := (machine.value word.y).toNat
      let rows := machine.memory.blockAt machine.index.toNat (machine.spriteRows word)
      { machine with
        registers := machine.registers.set flagRegister.val
          (if machine.screen.collides left top rows then 1 else 0)
        screen := machine.screen.drawn left top rows
        updated := true } := by
  have visible : machine.memory.blockAt machine.index.toNat (machine.spriteRows word) =
      (machine.sprite word).take (machine.screen.rows.length -
        wrapped machine.screen.height (machine.value word.y).toNat) := by
    rw [formed.rows, formed.top_eq, sprite, Memory.take_blockAt, spriteRows, Nat.min_comm]
  simp only [visible, drawn_take, collides_take, withSprite]

theorem WellFormed.execute_draw (formed : machine.WellFormed)
    (within : machine.index + machine.spriteRows word ≤ 0x1000) :
    machine.execute (.draw word.x word.y word.n) = .ok (machine.withSprite word) := by
  have size : machine.memory.size = 0x1000 := formed.memory
  have read : machine.memory.readBlock machine.index (machine.spriteRows word) =
      .ok (machine.memory.blockAt machine.index.toNat (machine.spriteRows word)) :=
    Memory.readBlock_within formed.index.1 (by omega)
  simp only [execute, formed.drawSprite_eq, formed.visibleRows_word, read, ok_bind, pure_eq_ok,
    formed.withSprite_eq]

theorem WellFormed.collides_sprite_iff (formed : machine.WellFormed) (word : Word) :
    machine.screen.collides (machine.value word.x).toNat (machine.value word.y).toNat
        (machine.sprite word) = true ↔
      ∃ column < 64, ∃ row < 32, machine.screen.lit column row = true ∧
        machine.spriteBit word column row = true := by
  have set (column row : Nat) :
      machine.screen.spriteBit? (machine.value word.x).toNat (machine.value word.y).toNat
        (machine.sprite word) column row = some true ↔
          machine.spriteBit word column row = true := by
    simp [← formed.spriteBit_eq, Option.getD_eq_iff]
  simp only [collides_iff, formed.measures.pixel?_eq_some_iff, set]
  constructor
  · rintro ⟨column, row, ⟨inColumns, inRows, lit⟩, bit⟩
    exact ⟨column, inColumns, row, inRows, lit, bit⟩
  · rintro ⟨column, inColumns, row, inRows, lit, bit⟩
    exact ⟨column, row, ⟨inColumns, inRows, lit⟩, bit⟩

theorem WellFormed.withSprite_measures (formed : machine.WellFormed) (word : Word) :
    (machine.withSprite word).screen.Measures 64 32 :=
  (drawn_sameShape ..).measures formed.measures

theorem WellFormed.lit_withSprite (formed : machine.WellFormed) (word : Word)
    (inColumns : column < 64) (inRows : row < 32) :
    (machine.withSprite word).screen.lit column row =
      xor (machine.screen.lit column row) (machine.spriteBit word column row) := by
  rw [← formed.spriteBit_eq, ← lit_drawn formed.measures inColumns inRows, withSprite]

/-- Only the rows on the screen have to be the same in both memories. -/
theorem WellFormed.withSprite_memory (formed : machine.WellFormed)
    (size : other.size = machine.memory.size)
    (same : ∀ place < machine.spriteRows word,
      other.byteAt (machine.index.toNat + place) =
        machine.memory.byteAt (machine.index.toNat + place)) :
    ({ machine with memory := other } : Machine).withSprite word =
      { machine.withSprite word with memory := other } := by
  have block : other.blockAt machine.index.toNat (machine.spriteRows word) =
      machine.memory.blockAt machine.index.toNat (machine.spriteRows word) :=
    Memory.blockAt_congr same
  rw [formed.withSprite_eq, (formed.withMemory size).withSprite_eq]
  simp only [← block]
  rfl

/-- A word that draws needs to be fetched and to find the rows on the screen in memory. -/
theorem WellFormed.step_draw_iff (formed : machine.WellFormed)
    (family : machine.nextWord.family.val = 0xD) :
    machine.step = .ok () after ↔
      machine.pc ≤ 0xFFE ∧ machine.index + machine.spriteRows machine.nextWord ≤ 0x1000 ∧
        after = ((machine.fetched machine.nextWord).withSprite machine.nextWord).tick := by
  have decoded := Instruction.ofWord?_eq_draw_iff.2 ⟨family, rfl, rfl, rfl⟩
  have size : machine.memory.size = 0x1000 := formed.memory
  have fetched := formed.fetched machine.nextWord
  constructor
  · intro stepped
    obtain ⟨word, instruction, executed, peeked, -, same, execution, rfl⟩ := step_eq_ok stepped
    obtain ⟨-, fetchable, rfl⟩ := peek_eq_ok peeked
    cases decoded.symm.trans same
    have within : machine.index + machine.spriteRows machine.nextWord ≤ 0x1000 := by
      refine Int.not_lt.1 fun beyond => ?_
      have failed := fetched.execute_draw_error machine.nextWord.x machine.nextWord.y
        machine.nextWord.n (by rwa [formed.visibleRows_fetched, fetched_index])
      cases failed.symm.trans execution
    cases (fetched.execute_draw within).symm.trans execution
    exact ⟨by omega, within, rfl⟩
  · rintro ⟨fetchable, within, rfl⟩
    have supported := Instruction.supported_iff_exists.2 ⟨_, decoded⟩
    have free : machine.obstacle? machine.nextWord = none := by
      refine obstacle?_eq_none_iff.2 ⟨supported, ?_, fun _ _ => within⟩
      intro opcode
      simp [Word.family, opcode] at family
    have vetted : machine.vet machine.nextWord = .ok () := by rw [formed.vet_eq, free]
    exact step_of_execute (peek_within formed.pc.1 (by omega)) vetted decoded
      (fetched.execute_draw within)

/-- A drawing step inverts the pixels below the lit bits of its sprite, tells a collision in the
last register and changes neither index nor stack nor memory.  Of memory it depends only on its own
word and on what stands before the end of the rows that it shows. -/
theorem step_draws_sprite (formed : machine.WellFormed)
    (family : machine.nextWord.family.val = 0xD) (stepped : machine.step = .ok () after) :
    ∃ collision : Bool,
      (collision = true ↔ ∃ column < 64, ∃ row < 32, machine.screen.lit column row = true ∧
        machine.spriteBit machine.nextWord column row = true) ∧
      after.screen.Measures 64 32 ∧
      (∀ column < 64, ∀ row < 32, after.screen.lit column row =
        xor (machine.screen.lit column row) (machine.spriteBit machine.nextWord column row)) ∧
      after.registers = machine.registers.set 15 (if collision then 1 else 0) ∧
      after.updated = true ∧ after.index = machine.index ∧ after.stack = machine.stack ∧
      after.memory = machine.memory ∧
      ∀ other : Memory, other.size = machine.memory.size →
        (∀ address : Nat, address < machine.index + machine.spriteRows machine.nextWord ∨
            address = machine.pc ∨ address = machine.pc + 1 →
          other.byteAt address = machine.memory.byteAt address) →
        ({ machine with memory := other } : Machine).step =
          .ok () { after with memory := other } := by
  obtain ⟨fetchable, within, rfl⟩ := (formed.step_draw_iff family).1 stepped
  refine ⟨_, formed.collides_sprite_iff machine.nextWord, formed.withSprite_measures _, ?_, rfl,
    rfl, rfl, rfl, rfl, ?_⟩
  · intro column inColumns row inRows
    exact formed.lit_withSprite machine.nextWord inColumns inRows
  · -- The other memory holds the same word, and the rows that are read are the same.
    intro other size agree
    have counter := Int.toNat_of_nonneg formed.pc.1
    have index := Int.toNat_of_nonneg formed.index.1
    have word : ({ machine with memory := other } : Machine).nextWord = machine.nextWord := by
      have high := agree machine.pc.toNat (by omega)
      have second := agree (machine.pc.toNat + 1) (by omega)
      simp only [nextWord, Memory.wordAt, high, second]
    have rows (place : Nat) (visible : place < machine.spriteRows machine.nextWord) :
        other.byteAt (machine.index.toNat + place) =
          machine.memory.byteAt (machine.index.toNat + place) :=
      agree _ (by omega)
    have drawn := (formed.fetched machine.nextWord).withSprite_memory size rows
    refine ((formed.withMemory size).step_draw_iff (by rwa [word])).2 ⟨fetchable, ?_, ?_⟩
    · rw [word]
      exact within
    · rw [word]
      exact congrArg Machine.tick drawn.symm

/-- The last register tells where on a lit screen to draw and then that a pixel was erased.  The
sprite is the instruction itself, with its first byte on the last row and the rest below it. -/
theorem step_draws_running_code :
    ∃ (machine after : Machine) (other : Memory), machine.WellFormed ∧
      machine.nextWord.family.val = 0xD ∧ machine.step = .ok () after ∧
      other.byteAt 0x202 ≠ machine.memory.byteAt 0x202 ∧
      ({ machine with memory := other } : Machine).step = .ok () { after with memory := other } ∧
      machine.value 15 = 31 ∧ after.value 15 = 1 ∧ machine.screen.lit 31 31 = true ∧
      after.screen.lit 31 31 = false ∧ after.screen.lit 33 31 = true := by
  obtain ⟨memory, -, size, bytes⟩ := loaded_ok none [0xDF, 0xF5] (by simp) (by decide)
  obtain ⟨other, -, otherSize, otherBytes⟩ :=
    loaded_ok none [0xDF, 0xF5, 0xFF] (by simp) (by decide)
  let machine : Machine :=
    { powered memory with
      index := 0x200
      registers := (List.replicate 16 0).set 15 31
      screen := { Screen.standard with rows := List.replicate 32 (List.replicate 64 true) } }
  have formed : machine.WellFormed :=
    { powered_wellFormed size with
      index := (by decide : (0 : Int) ≤ 0x200 ∧ (0x200 : Int) < 0x10000)
      registers := rfl
      rows := rfl
      columns := by
        intro row member
        rw [List.eq_of_mem_replicate member]
        rfl }
  have word : machine.nextWord = .ofBytes 0xDF 0xF5 := by
    change Word.ofBytes (memory.byteAt 0x200) (memory.byteAt 0x201) = _
    rw [bytes, bytes]
    rfl
  have family : machine.nextWord.family.val = 0xD := by
    rw [word]
    rfl
  have visible : machine.spriteRows machine.nextWord = 1 := by
    rw [word]
    rfl
  have first : memory.byteAt 0x200 = 0xDF := bytes 0x200
  have bits : machine.spriteBit machine.nextWord 31 31 = true ∧
      machine.spriteBit machine.nextWord 33 31 = false := by
    rw [word]
    change (memory.byteAt 0x200).toNat.testBit 7 = true ∧
      (memory.byteAt 0x200).toNat.testBit 5 = false
    rw [first]
    decide
  have within : machine.index + machine.spriteRows machine.nextWord ≤ 0x1000 := by
    rw [visible]
    exact (by decide : (0x200 : Int) + 1 ≤ 0x1000)
  have stepped := (formed.step_draw_iff family).2 ⟨(by decide : (0x200 : Int) ≤ 0xFFE), within, rfl⟩
  obtain ⟨collision, collides, -, pixels, registers, -, -, -, -, independent⟩ :=
    step_draws_sprite formed family stepped
  obtain rfl : collision = true := collides.2 ⟨31, by decide, 31, by decide, rfl, bits.1⟩
  have agree (address : Nat) (low : address < 0x202) :
      other.byteAt address = memory.byteAt address := by
    rw [bytes, otherBytes]
    obtain before | rfl | rfl : address < 0x200 ∨ address = 0x200 ∨ address = 0x201 := by omega
    · simp only [imageByte, programStart, Nat.not_le.2 before, false_and, if_false]
    · rfl
    · rfl
  have unchanged := independent other (otherSize.trans size.symm) fun address read => by
    rw [visible] at read
    change (address : Int) < 0x201 ∨ (address : Int) = 0x200 ∨ (address : Int) = 0x201 at read
    exact agree address (by omega)
  refine ⟨machine, _, other, formed, family, stepped, ?_, unchanged, rfl, ?_, rfl, ?_, ?_⟩
  · change other.byteAt 0x202 ≠ memory.byteAt 0x202
    rw [bytes, otherBytes]
    decide
  · rw [value, registers]
    rfl
  · rw [pixels 31 (by decide) 31 (by decide), bits.1]
    rfl
  · rw [pixels 33 (by decide) 31 (by decide), bits.2]
    rfl

end Machine

end ChipEight
