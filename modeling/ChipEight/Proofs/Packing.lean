import Mathlib.Algebra.Ring.Int.Defs
import Mathlib.Algebra.Ring.Nat
import ChipEight.Proofs.Numbers

namespace ChipEight

/-! Filling a picture and packing it again.

A row takes a byte for each eight pixels that it has or has begun, and it is filled piece by piece.
The pieces of two rows of one length have the same lengths, so that a row takes over any packed row
of its own length.  The bits of its last byte that no pixel stands for are packed as zeros and
passed over when the byte is read: what is read is packed again, but for those bits.
-/

namespace Slice

variable {α β : Type} {size count : Nat}

theorem length_pieces_congr {left : List α} {right : List β}
    (length : left.length = right.length) :
    (pieces size left).map List.length = (pieces size right).map List.length := by
  fun_induction pieces size left generalizing right with
  | case1 =>
      obtain rfl : right = [] := List.eq_nil_of_length_eq_zero length.symm
      simp [pieces]
  | case2 value rest induction =>
      match right with
      | [] => simp at length
      | other :: others =>
          have same : rest.length = others.length := Nat.succ.inj length
          have later : (rest.drop (size - 1)).length = (others.drop (size - 1)).length := by
            simp [same]
          have tails := induction later
          rw [pieces, List.map_cons, List.map_cons, tails]
          simp [same]

/-- Lists as long as the pieces of another one are the pieces of what they make up. -/
theorem pieces_of_lengths {values : List α} {blocks : List (List β)}
    (lengths : blocks.map List.length = (pieces size values).map List.length) :
    pieces size blocks.flatten = blocks := by
  fun_induction pieces size values generalizing blocks with
  | case1 =>
      obtain rfl : blocks = [] := List.map_eq_nil_iff.1 lengths
      simp [pieces]
  | case2 value rest induction =>
      rcases blocks with _ | ⟨_ | ⟨first, tail⟩, others⟩
      · simp at lengths
      · simp at lengths
      obtain ⟨length, later⟩ := List.cons.inj lengths
      have filled : tail.length = min (size - 1) rest.length := by simpa using length
      have behind := induction later
      -- Behind a short piece nothing is left.
      have split : (tail ++ others.flatten).take (size - 1) = tail ∧
          (tail ++ others.flatten).drop (size - 1) = others.flatten := by
        by_cases whole : size - 1 ≤ rest.length
        · have exact : tail.length = size - 1 := by omega
          exact ⟨exact ▸ List.take_left, exact ▸ List.drop_left⟩
        · have none : rest.drop (size - 1) = [] := List.drop_eq_nil_of_le (by omega)
          obtain rfl : others = [] := by simpa [none, pieces] using later
          rw [List.flatten_nil, List.append_nil]
          exact ⟨List.take_of_length_le (by omega), List.drop_eq_nil_of_le (by omega)⟩
      rw [List.flatten_cons, List.cons_append, pieces, split.1, split.2, behind]

theorem pieces_whole {values : List α}
    (length : values.length = size * count) (positive : 0 < size) :
    (pieces size values).length = count ∧ ∀ piece ∈ pieces size values, piece.length = size := by
  induction count generalizing values with
  | zero =>
      obtain rfl : values = [] := List.eq_nil_of_length_eq_zero (by simpa using length)
      simp [pieces]
  | succ count induction =>
      cases values with
      | nil =>
          simp only [List.length_nil, Nat.mul_succ] at length
          omega
      | cons value rest =>
          simp only [List.length_cons, Nat.mul_succ] at length
          have later : (rest.drop (size - 1)).length = size * count := by
            rw [List.length_drop]
            omega
          obtain ⟨pieceCount, lengths⟩ := induction later
          rw [pieces]
          refine ⟨by simp [pieceCount], fun piece member => ?_⟩
          rcases List.mem_cons.1 member with rfl | member
          · simp only [List.length_cons, List.length_take]
            omega
          · exact lengths piece member

theorem pieces_flatten (positive : 0 < size) {blocks : List (List α)}
    (whole : ∀ block ∈ blocks, block.length = size) : pieces size blocks.flatten = blocks := by
  have units : (List.replicate (size * blocks.length) ()).length = size * blocks.length :=
    List.length_replicate
  obtain ⟨number, lengths⟩ := pieces_whole units positive
  apply pieces_of_lengths
  rw [List.map_congr_left whole, List.map_congr_left lengths, List.map_const', List.map_const',
    number]

/-- What has so many times the same length parts into as many lists of that length. -/
theorem exists_blocks {values : List α} (length : values.length = size * count) :
    ∃ blocks : List (List α), blocks.flatten = values ∧ blocks.length = count ∧
      ∀ block ∈ blocks, block.length = size := by
  induction count generalizing values with
  | zero =>
      obtain rfl : values = [] := List.eq_nil_of_length_eq_zero length
      exact ⟨[], rfl, rfl, by simp⟩
  | succ count induction =>
      rw [Nat.mul_succ] at length
      have rest : (values.drop size).length = size * count := by
        rw [List.length_drop]
        omega
      obtain ⟨blocks, flat, number, lengths⟩ := induction rest
      refine ⟨values.take size :: blocks, ?_, congrArg Nat.succ number, ?_⟩
      · rw [List.flatten_cons, flat, List.take_append_drop]
      · intro block member
        rcases List.mem_cons.1 member with rfl | later
        · rw [List.length_take]
          omega
        · exact lengths block later

/-- Where lists of one length make up another, a place counts within its list as well. -/
theorem mapIdx_flatten {view : Nat → α → β} {blocks : List (List α)}
    (lengths : ∀ block ∈ blocks, block.length = size)
    (periodic : ∀ place, view (place + size) = view place) :
    blocks.flatten.mapIdx view = (blocks.map (List.mapIdx view)).flatten := by
  induction blocks with
  | nil => rfl
  | cons block rest induction =>
      have others := induction fun block member => lengths block (List.mem_cons_of_mem _ member)
      rw [List.flatten_cons, List.mapIdx_append, lengths block List.mem_cons_self, List.map_cons,
        List.flatten_cons, ← others]
      simp only [periodic]

end Slice

namespace Screen

variable {screen source target : Screen} {across down : Nat} {row piece : List Bool}
  {block before after picture : List Int}

def fillPiece (piece : List Bool) (byte : Int) : List Bool := (unpackByte byte).take piece.length

/-- A row, filled from one number for each of its pieces. -/
def fillRow (row : List Bool) (block : List Int) : List Bool :=
  ((Slice.pieces 8 row).zipWith fillPiece block).flatten

theorem fillPieces_append {pieces : List (List Bool)} {block : List Int}
    (length : block.length = pieces.length) :
    fillPieces (before ++ (block ++ after)) before.length pieces =
      .ok () (pieces.zipWith fillPiece block) := by
  induction pieces generalizing before block with
  | nil => rfl
  | cons piece rest induction =>
      match block with
      | [] => simp at length
      | byte :: others =>
          have same : others.length = rest.length := Nat.succ.inj length
          have tail : fillPieces ((before ++ [byte]) ++ (others ++ after))
              (before ++ [byte]).length rest = .ok () (rest.zipWith fillPiece others) :=
            induction same
          rw [List.append_assoc, List.length_append] at tail
          have filled : fillPieces (before ++ byte :: (others ++ after)) (before.length + 1) rest =
              .ok () (rest.zipWith fillPiece others) := tail
          simp only [List.cons_append, fillPieces, Slice.element_here, filled]
          rfl

theorem fillRows_append {rows : List (List Bool)} {blocks : List (List Int)}
    (lengths : blocks.map List.length = rows.map fun row => (Slice.pieces 8 row).length) :
    fillRows (before ++ (blocks.flatten ++ after)) before.length rows =
      .ok () (rows.zipWith fillRow blocks) := by
  induction rows generalizing before blocks with
  | nil => rfl
  | cons row rest induction =>
      match blocks with
      | [] => simp at lengths
      | block :: others =>
          obtain ⟨length, lengths⟩ := List.cons.inj lengths
          have first : fillPieces (before ++ (block ++ (others.flatten ++ after))) before.length
              (Slice.pieces 8 row) = .ok () ((Slice.pieces 8 row).zipWith fillPiece block) :=
            fillPieces_append length
          have tail : fillRows ((before ++ block) ++ (others.flatten ++ after))
              (before ++ block).length rest = .ok () (rest.zipWith fillRow others) :=
            induction lengths
          rw [List.append_assoc, List.length_append, length, Int.natCast_add] at tail
          simp only [List.flatten_cons, List.append_assoc, fillRows, first, tail]
          rfl

@[simp] theorem length_unpackByte (byte : Int) : (unpackByte byte).length = 8 := rfl

theorem getElem?_unpackByte (n : Nat) {index : Nat} (inside : index < 8) :
    (unpackByte n)[index]? = some (n.testBit (8 - 1 - index)) := by
  unfold unpackByte
  simp only [Bits.bit_ofNat]
  match index, inside with
  | 0, _ | 1, _ | 2, _ | 3, _ | 4, _ | 5, _ | 6, _ | 7, _ => rfl

theorem fillPiece_packByte {piece source : List Bool} (length : piece.length = source.length)
    (short : source.length ≤ 8) : fillPiece piece (packByte 8 source : Nat) = source := by
  apply List.ext_getElem?
  intro index
  rw [fillPiece, List.getElem?_take, length]
  by_cases inside : index < source.length
  · rw [if_pos inside, getElem?_unpackByte _ (by omega), testBit_packByte _ _ (by omega),
      List.getD_eq_getElem?_getD, List.getElem?_eq_getElem inside, Option.getD_some]
  · rw [if_neg inside, List.getElem?_eq_none (by omega)]

theorem fillPieces_lengths (data : List Int) (position : Int) (pieces : List (List Bool))
    (short : ∀ piece ∈ pieces, piece.length ≤ 8) :
    (fillPieces data position pieces).state.map List.length = pieces.map List.length := by
  induction pieces generalizing position with
  | nil => rfl
  | cons piece rest induction =>
      have later := induction (position + 1) fun piece member => short piece (by simp [member])
      have first := short piece (by simp)
      simp only [fillPieces]
      cases Slice.element data position with
      | error fault => rfl
      | ok byte =>
          have filled : ((unpackByte byte).take piece.length).length = piece.length := by
            rw [List.length_take, length_unpackByte, Nat.min_eq_left first]
          cases fills : fillPieces data (position + 1) rest <;>
            simp only [fills, Outcome.state] at later ⊢ <;>
            rw [List.map_cons, List.map_cons, filled, later]

/-- Lists that are filled from what others of their lengths pack to become those. -/
theorem zipWith_fill {β : Type} {fill : List Bool → β → List Bool} {pack : List Bool → β}
    {targets sources : List (List Bool)}
    (lengths : targets.map List.length = sources.map List.length)
    (restores : ∀ target, ∀ source ∈ sources, target.length = source.length →
      fill target (pack source) = source) :
    targets.zipWith fill (sources.map pack) = sources := by
  induction targets generalizing sources with
  | nil =>
      match sources with
      | [] => rfl
      | source :: others => simp at lengths
  | cons target rest induction =>
      match sources with
      | [] => simp at lengths
      | source :: others =>
          obtain ⟨length, lengths⟩ := List.cons.inj lengths
          have first := restores target source (by simp) length
          have later := induction lengths fun target source member =>
            restores target source (by simp [member])
          simp only [List.map_cons, List.zipWith_cons_cons, first, later]

/-- A packed row, as a snapshot has it. -/
def rowNumbers (row : List Bool) : List Int := (packRow row).map Int.ofNat

theorem rowNumbers_eq (row : List Bool) :
    rowNumbers row = (Slice.pieces 8 row).map fun piece => (packByte 8 piece : Int) := by
  simp [rowNumbers, packRow, Function.comp_def]

theorem snapshot_eq (screen : Screen) :
    screen.snapshot = (screen.rows.map rowNumbers).flatten := by
  simp only [snapshot, packed, List.flatMap, List.map_flatten, List.map_map]
  rfl

theorem fillRow_rowNumbers {row source : List Bool} (length : row.length = source.length) :
    fillRow row (rowNumbers source) = source := by
  have lengths : (Slice.pieces 8 row).map List.length = (Slice.pieces 8 source).map List.length :=
    Slice.length_pieces_congr length
  have filled := zipWith_fill lengths fun piece source member same =>
    fillPiece_packByte same (Slice.length_le_of_mem_pieces (by decide) member)
  rw [fillRow, rowNumbers_eq, filled, Slice.flatten_pieces]

theorem zipWith_eq_map {α β γ : Type} {combine : α → β → γ} {view : β → γ} {left : List α}
    {right : List β} (length : right.length = left.length)
    (same : ∀ value ∈ left, ∀ other ∈ right, combine value other = view other) :
    left.zipWith combine right = right.map view := by
  induction left generalizing right with
  | nil =>
      obtain rfl : right = [] := List.eq_nil_of_length_eq_zero length
      rfl
  | cons value rest induction =>
      match right with
      | [] => simp at length
      | other :: others =>
          have first := same value (by simp) other (by simp)
          have later := induction (Nat.succ.inj length) fun value member other found =>
            same value (by simp [member]) other (by simp [found])
          simp only [List.zipWith_cons_cons, List.map_cons, first, later]

/-- A number without its lowest bits. -/
def withoutLow (bits : Nat) (value : Int) : Int := value / 2 ^ bits * 2 ^ bits

/-- How many bytes a row of so many pixels takes. -/
def stride (across : Nat) : Nat := (across + 7) / 8

/-- A byte in packed rows, by its place.  The last one of a row is without the bits that no pixel
stands for. -/
def trimmed (across place : Nat) (value : Int) : Int :=
  if place % stride across + 1 = stride across then withoutLow (8 * stride across - across) value
  else value

theorem length_pieces_row (row : List Bool) : (Slice.pieces 8 row).length = stride row.length :=
  Slice.length_pieces (by decide) row

theorem packByte_take {count value : Nat} (short : count ≤ 8) (byte : value < 256) :
    packByte 8 ((unpackByte value).take count) = value / 2 ^ (8 - count) * 2 ^ (8 - count) := by
  apply Nat.eq_of_testBit_eq
  intro place
  rw [Nat.testBit_mul_two_pow, Nat.testBit_div_two_pow]
  by_cases low : place < 8
  · have index : place = 8 - 1 - (7 - place) := by omega
    rw [index, testBit_packByte _ _ (by omega), ← index, List.getD_eq_getElem?_getD,
      List.getElem?_take, getElem?_unpackByte _ (by omega), ← index]
    by_cases kept : 7 - place < count
    · rw [if_pos kept, Option.getD_some, decide_eq_true (by omega), Bool.true_and,
        Nat.sub_add_cancel (by omega)]
    · rw [if_neg kept, Option.getD_none, decide_eq_false (by omega), Bool.false_and]
  · have bound : 2 ^ 8 ≤ 2 ^ place := Nat.pow_le_pow_right (by decide) (by omega)
    have packed := packByte_lt 8 ((unpackByte value).take count)
    rw [Nat.testBit_lt_two_pow (by omega), Nat.sub_add_cancel (by omega),
      Nat.testBit_lt_two_pow (by omega), Bool.and_false]

/-- A piece packs into the number it was filled from, without the bits that it has no pixels for. -/
theorem packByte_fillPiece {value : Int} (short : piece.length ≤ 8)
    (byte : 0 ≤ value ∧ value < 256) :
    (packByte 8 (fillPiece piece value) : Int) = withoutLow (8 - piece.length) value := by
  obtain ⟨value, rfl⟩ := Int.eq_ofNat_of_zero_le byte.1
  rw [fillPiece, packByte_take short (by omega), withoutLow]
  push_cast
  rfl

theorem withoutLow_zero (value : Int) : withoutLow 0 value = value := by simp [withoutLow]

theorem trimmed_whole (count : Nat) : trimmed (8 * count) = fun _ value => value := by
  have exact : 8 * stride (8 * count) - 8 * count = 0 := by
    simp only [stride]
    omega
  funext place value
  rw [trimmed, exact, withoutLow_zero, ite_self]

/-- Only the last piece of a row is short. -/
theorem trimmed_piece {place : Nat} (inside : place < stride row.length) (value : Int) :
    withoutLow (8 - ((row.drop (8 * place)).take 8).length) value =
      trimmed row.length place value := by
  have length : ((row.drop (8 * place)).take 8).length = min 8 (row.length - 8 * place) := by
    rw [List.length_take, List.length_drop]
  have count : stride row.length = (row.length + 7) / 8 := rfl
  rw [length, trimmed, Nat.mod_eq_of_lt inside]
  by_cases last : place + 1 = stride row.length
  · have spare : 8 - min 8 (row.length - 8 * place) = 8 * stride row.length - row.length := by
      omega
    rw [if_pos last, spare]
  · have whole : 8 - min 8 (row.length - 8 * place) = 0 := by omega
    rw [if_neg last, whole, withoutLow_zero]

theorem rowNumbers_fillRow (whole : block.length = stride row.length)
    (bytes : ∀ value ∈ block, 0 ≤ value ∧ value < 256) :
    rowNumbers (fillRow row block) = block.mapIdx (trimmed row.length) := by
  have short : ∀ piece ∈ Slice.pieces 8 row, piece.length ≤ 8 := fun piece member =>
    Slice.length_le_of_mem_pieces (by decide) member
  have filled : fillPieces ([] ++ (block ++ [])) ([] : List Int).length (Slice.pieces 8 row) =
      .ok () ((Slice.pieces 8 row).zipWith fillPiece block) :=
    fillPieces_append (whole.trans (length_pieces_row row).symm)
  have lengths : ((Slice.pieces 8 row).zipWith fillPiece block).map List.length =
      (Slice.pieces 8 row).map List.length := by
    have kept := fillPieces_lengths ([] ++ (block ++ [])) ([] : List Int).length _ short
    rwa [filled] at kept
  rw [fillRow, rowNumbers_eq, Slice.pieces_of_lengths lengths]
  apply List.ext_getElem?
  intro place
  rw [List.getElem?_map, List.getElem?_zipWith, List.getElem?_mapIdx,
    Slice.getElem?_pieces (by decide)]
  by_cases inside : place < block.length
  · have within : place < stride row.length := whole ▸ inside
    have begun : 8 * place < row.length := by
      simp only [stride] at within
      omega
    have byte := bytes _ (List.getElem_mem inside)
    rw [if_pos begun, List.getElem?_eq_getElem inside]
    simp only [Option.map_some]
    rw [packByte_fillPiece (List.length_take_le ..) byte, trimmed_piece within]
  · have ended : ¬ 8 * place < row.length := by
      simp only [whole, stride] at inside
      omega
    rw [if_neg ended, List.getElem?_eq_none (Nat.not_lt.1 inside)]
    rfl

/-- A picture of so many columns and rows, which says so itself. -/
structure Measures (screen : Screen) (across down : Nat) : Prop where
  width : screen.width = across
  height : screen.height = down
  rows : screen.rows.length = down
  columns : ∀ row ∈ screen.rows, row.length = across

namespace Measures

theorem packedSize_eq (measures : screen.Measures across down) :
    screen.packedSize = (stride across * down : Nat) := by
  rw [packedSize, measures.width, measures.height, stride]
  rw [Int.fdiv_eq_ediv_of_nonneg _ (by decide)]
  push_cast
  rfl

theorem length_rowNumbers (measures : screen.Measures across down) (member : row ∈ screen.rows) :
    (rowNumbers row).length = stride across := by
  rw [rowNumbers_eq, List.length_map, length_pieces_row, measures.columns row member]

theorem length_snapshot (measures : screen.Measures across down) :
    screen.snapshot.length = stride across * down := by
  have lengths := List.map_congr_left fun row member => measures.length_rowNumbers member
  rw [snapshot_eq, List.length_flatten, List.map_map]
  simp only [Function.comp_def, lengths, List.map_const', measures.rows, List.sum_replicate_nat]
  exact Nat.mul_comm ..

/-- A block of numbers for each row is all that a picture is read from. -/
theorem restore_append (measures : screen.Measures across down) {blocks : List (List Int)}
    (number : blocks.length = down) (lengths : ∀ block ∈ blocks, block.length = stride across) :
    screen.restore (before ++ (blocks.flatten ++ after)) before.length =
      .ok screen.packedSize { screen with rows := screen.rows.zipWith fillRow blocks } := by
  have each : blocks.map List.length = screen.rows.map fun row => (Slice.pieces 8 row).length := by
    have blocksEach := List.map_congr_left lengths
    have rowsEach := List.map_congr_left fun row member =>
      (length_pieces_row row).trans (congrArg stride (measures.columns row member))
    rw [blocksEach, rowsEach, List.map_const', List.map_const', number, measures.rows]
  have filled : fillRows (before ++ (blocks.flatten ++ after)) before.length screen.rows =
      .ok () (screen.rows.zipWith fillRow blocks) := fillRows_append each
  have total : blocks.flatten.length = stride across * down := by
    have blocksEach := List.map_congr_left lengths
    rw [List.length_flatten, blocksEach, List.map_const', number, List.sum_replicate_nat]
    exact Nat.mul_comm ..
  have room : ¬ ((before ++ (blocks.flatten ++ after)).length : Int) - before.length <
      screen.packedSize := by
    simp only [List.length_append, total, measures.packedSize_eq]
    omega
  rw [restore, if_neg room, filled]

theorem map_length (measures : screen.Measures across down) :
    screen.rows.map List.length = List.replicate down across := by
  rw [← measures.rows, ← List.map_const']
  exact List.map_congr_left measures.columns

theorem zipWith_rowNumbers (measures : target.Measures across down)
    (shown : screen.Measures across down) :
    target.rows.zipWith fillRow (screen.rows.map rowNumbers) = screen.rows :=
  zipWith_fill (measures.map_length.trans shown.map_length.symm)
    fun _ _ _ length => fillRow_rowNumbers length

/-- A picture is read from what another one of its size is packed into, wherever that stands. -/
theorem restore_snapshot (measures : target.Measures across down)
    (shown : screen.Measures across down) :
    target.restore (before ++ (screen.snapshot ++ after)) before.length =
      .ok screen.packedSize screen := by
  have number : (screen.rows.map rowNumbers).length = down := by rw [List.length_map, shown.rows]
  have lengths : ∀ block ∈ screen.rows.map rowNumbers, block.length = stride across := by
    intro block found
    obtain ⟨row, member, rfl⟩ := List.mem_map.1 found
    exact shown.length_rowNumbers member
  rw [snapshot_eq, measures.restore_append number lengths, measures.zipWith_rowNumbers shown,
    measures.packedSize_eq, shown.packedSize_eq, measures.width, measures.height, ← shown.width,
    ← shown.height]

theorem rowNumbers_zipWith (measures : screen.Measures across down) {blocks : List (List Int)}
    (number : blocks.length = down) (lengths : ∀ block ∈ blocks, block.length = stride across)
    (bytes : ∀ value ∈ blocks.flatten, 0 ≤ value ∧ value < 256) :
    (screen.rows.zipWith fillRow blocks).map rowNumbers =
      blocks.map (List.mapIdx (trimmed across)) := by
  rw [List.map_zipWith]
  refine zipWith_eq_map (number.trans measures.rows.symm) ?_
  intro row member block found
  have columns := measures.columns row member
  have whole : block.length = stride row.length := by rw [lengths block found, columns]
  have each := rowNumbers_fillRow whole fun value inside =>
    bytes value (List.mem_flatten_of_mem found inside)
  rwa [columns] at each

/-- What is read is packed again, but for the bits that no pixel stands for. -/
theorem snapshot_restored (measures : screen.Measures across down)
    (length : picture.length = stride across * down)
    (bytes : ∀ value ∈ picture, 0 ≤ value ∧ value < 256) :
    ∃ left : Screen, screen.restore (before ++ (picture ++ after)) before.length =
        .ok screen.packedSize left ∧
      left.snapshot = picture.mapIdx (trimmed across) := by
  obtain ⟨blocks, rfl, number, lengths⟩ := Slice.exists_blocks length
  refine ⟨_, measures.restore_append number lengths, ?_⟩
  have periodic (place : Nat) : trimmed across (place + stride across) = trimmed across place := by
    funext value
    simp only [trimmed, Nat.add_mod_right]
  rw [snapshot_eq, measures.rowNumbers_zipWith number lengths bytes,
    Slice.mapIdx_flatten lengths periodic]

end Measures

/-- A screen as the machine has it, whatever it shows. -/
structure Standard (screen : Screen) : Prop where
  width : screen.width = 64
  height : screen.height = 32
  rows : screen.rows.length = 32
  columns : ∀ row ∈ screen.rows, row.length = 64

/-- The screen filled from numbers, eight for each row. -/
def filled (screen : Screen) (picture : List Int) : Screen :=
  { screen with rows := screen.rows.zipWith fillRow (Slice.pieces 8 picture) }

namespace Standard

theorem measures (standard : screen.Standard) : screen.Measures 64 32 :=
  ⟨standard.width, standard.height, standard.rows, standard.columns⟩

theorem packedSize_eq (standard : screen.Standard) : screen.packedSize = 0x100 :=
  standard.measures.packedSize_eq

theorem pieces_row (standard : screen.Standard) {row : List Bool} (member : row ∈ screen.rows) :
    (Slice.pieces 8 row).length = 8 ∧ ∀ piece ∈ Slice.pieces 8 row, piece.length = 8 :=
  Slice.pieces_whole (standard.columns row member) (by decide)

theorem pieces_snapshot (standard : screen.Standard) :
    Slice.pieces 8 screen.snapshot = screen.rows.map rowNumbers := by
  rw [snapshot_eq]
  apply Slice.pieces_flatten (by decide)
  intro block found
  obtain ⟨row, member, rfl⟩ := List.mem_map.1 found
  exact standard.measures.length_rowNumbers member

theorem length_snapshot (standard : screen.Standard) : screen.snapshot.length = 0x100 :=
  standard.measures.length_snapshot

theorem restore_append (standard : screen.Standard) (length : picture.length = 0x100) :
    screen.restore (before ++ (picture ++ after)) before.length =
      .ok 0x100 (screen.filled picture) := by
  have whole : picture.length = 8 * 32 := length
  obtain ⟨number, lengths⟩ := Slice.pieces_whole whole (by decide)
  have restored : screen.restore (before ++ ((Slice.pieces 8 picture).flatten ++ after)) _ =
      .ok _ (screen.filled picture) := standard.measures.restore_append number lengths
  rwa [Slice.flatten_pieces, standard.packedSize_eq] at restored

theorem filled_snapshot (standard : screen.Standard) (shown : source.Standard) :
    screen.filled source.snapshot = source := by
  have rows := standard.measures.zipWith_rowNumbers shown.measures
  rw [filled, shown.pieces_snapshot, rows, standard.width, standard.height, ← shown.width,
    ← shown.height]

theorem snapshot_filled (standard : screen.Standard) (length : picture.length = 0x100)
    (bytes : ∀ value ∈ picture, 0 ≤ value ∧ value < 256) :
    (screen.filled picture).snapshot = picture := by
  have whole : picture.length = 8 * 32 := length
  obtain ⟨number, lengths⟩ := Slice.pieces_whole whole (by decide)
  rw [← Slice.flatten_pieces 8 picture] at bytes
  have packed := standard.measures.rowNumbers_zipWith number lengths bytes
  have kept : List.mapIdx (trimmed 64) = id := by
    funext block
    rw [trimmed_whole 8, List.mapIdx_eq_zipIdx_map]
    exact List.zipIdx_map_fst 0 block
  rw [snapshot_eq, filled, packed, kept, List.map_id, Slice.flatten_pieces]

end Standard

end Screen

end ChipEight
