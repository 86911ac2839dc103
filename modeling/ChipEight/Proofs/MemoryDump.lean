import ChipEight.Memory.Dump
import ChipEight.Proofs.HexDump

namespace ChipEight

/-! The rows of a memory dump, read back.

A row names its offset twice, with a blank between the two numbers, and has its bytes behind a
colon.  No number and no byte is written with either, however long a number gets.  So a row can be
parted at them, and a dump says where each byte stands, for rows of any length.
-/

namespace Text

theorem notMem_decimal {width n : Nat} {c : Char} (other : digitValue? 10 c = none) :
    c ∉ (decimal width n).toList := fun member =>
  digit_of_number? (number?_decimal width n) c member other

end Text

open Text Listing.Columns

namespace Memory

/-- A byte of just two digits. -/
def group? : List Char → Option UInt8
  | [high, low] => Operands.byte? [high, low]
  | _ => none

/-- A row as it reads: its offset in decimal and in hexadecimal, and its bytes. -/
def row? (line : List Char) : Option (Nat × Nat × List UInt8) := do
  let (offsets, groups) ← atColon? line
  match offsets.splitOn ' ' with
  | [tens, sixteens] =>
      return (← number? 10 tens, ← number? 16 sixteens, ← (groups.splitOn ' ').mapM group?)
  | _ => none

variable {memory : Memory} {offset rowSize : Nat} {bytes : List UInt8} {lines : List String}

theorem group?_hexByte (byte : UInt8) : group? (hexByte byte).toList = some byte := by
  obtain ⟨high, low, digits, -⟩ := toList_hexByte byte
  have read : Operands.byte? (hexByte byte).toList = some byte := Operands.byte?_hex byte
  rw [digits] at read ⊢
  exact read

theorem mapM_group?_hexColumn (nonempty : bytes ≠ []) :
    ((Listing.hexColumn bytes).toList.splitOn ' ').mapM group? = some bytes := by
  have apart : ∀ group ∈ bytes.map fun byte => (hexByte byte).toList, ' ' ∉ group := by
    intro group member
    obtain ⟨byte, -, rfl⟩ := List.mem_map.1 member
    exact notMem_hex rfl
  have split : (Listing.hexColumn bytes).toList.splitOn ' ' =
      bytes.map fun byte => (hexByte byte).toList := by
    rw [Listing.hexColumn, String.toList_intercalate, List.map_map]
    exact List.splitOn_intercalate ' ' apart (by simpa using nonempty)
  rw [split]
  apply Listing.mapM_eq_some
  simp only [List.map_map, Function.comp_def, group?_hexByte]

theorem dumpRow_eq (offset : Nat) (bytes : List UInt8) :
    dumpRow offset bytes =
      decimal 4 offset ++ (" " ++ (hex 3 offset ++ (": " ++ Listing.hexColumn bytes))) := by
  simp only [dumpRow, String.append_assoc]
  rfl

theorem toList_dumpRow (offset : Nat) (bytes : List UInt8) :
    (dumpRow offset bytes).toList =
      ((decimal 4 offset).toList ++ ' ' :: (hex 3 offset).toList) ++
        ':' :: ' ' :: (Listing.hexColumn bytes).toList := by
  have blank : " ".toList = [' '] := rfl
  have colon : ": ".toList = [':', ' '] := rfl
  simp only [dumpRow_eq, String.toList_append, blank, colon, List.append_assoc, List.cons_append,
    List.nil_append]

theorem row?_dumpRow (offset : Nat) (nonempty : bytes ≠ []) :
    row? (dumpRow offset bytes).toList = some (offset, offset, bytes) := by
  have apart : ':' ∉ (decimal 4 offset).toList ++ ' ' :: (hex 3 offset).toList := by
    rw [List.mem_append, List.mem_cons, not_or, not_or]
    exact ⟨notMem_decimal rfl, by decide, notMem_hex rfl⟩
  have numbers : ∀ digits ∈ [(decimal 4 offset).toList, (hex 3 offset).toList], ' ' ∉ digits :=
    List.forall_mem_cons.2 ⟨notMem_decimal rfl, List.forall_mem_singleton.2 (notMem_hex rfl)⟩
  have split : ((decimal 4 offset).toList ++ ' ' :: (hex 3 offset).toList).splitOn ' ' =
      [(decimal 4 offset).toList, (hex 3 offset).toList] := by
    have parted := List.splitOn_intercalate ' ' numbers (List.cons_ne_nil _ _)
    rwa [List.intercalate_cons_cons, List.intercalate_singleton, List.append_assoc] at parted
  rw [toList_dumpRow, row?, atColon?_append apart]
  simp only [Option.bind_eq_bind, Option.bind_some, split, number?_decimal, number?_hex,
    mapM_group?_hexColumn nonempty]
  rfl

example : dumpRow 0x220 [0xAB, 0] = "0544 220: AB 00" := by decide

/-- Lines that show bytes from the first one on, so many in each line but the last. -/
structure Dumped (bytes : List UInt8) (rowSize : Nat) (lines : List String) : Prop where
  number : lines.length = (bytes.length + (rowSize - 1)) / rowSize
  start : ∀ (place : Nat) (line : String), lines[place]? = some line → ∃ groups,
    line = decimal 4 (place * rowSize) ++ " " ++ hex 3 (place * rowSize : Nat) ++ ": " ++ groups
  read : ∀ (place : Nat) (line : String), lines[place]? = some line →
    row? line.toList =
      some (place * rowSize, place * rowSize, (bytes.drop (place * rowSize)).take rowSize)
  whole : (lines.mapM fun line => row? line.toList).map (List.flatMap fun row => row.2.2) =
    some bytes

/-- The rows of any length that is not zero. -/
def rowsOf (rowSize : Nat) (memory : Memory) : List String :=
  (Slice.pieces rowSize memory.toList).mapIdx fun row => dumpRow (row * rowSize)

theorem dump_eq (positive : 0 < rowSize) : memory.dump rowSize = .ok (rowsOf rowSize memory) := by
  rw [dump, if_neg (by omega), if_neg (by omega)]
  rfl

theorem dumped_rowsOf (positive : 0 < rowSize) (memory : Memory) :
    Dumped memory.toList rowSize (rowsOf rowSize memory) where
  number := by rw [rowsOf, List.length_mapIdx, Slice.length_pieces positive]
  start := by
    intro place line found
    rw [rowsOf, List.getElem?_mapIdx, Option.map_eq_some_iff] at found
    obtain ⟨bytes, -, rfl⟩ := found
    exact ⟨_, rfl⟩
  read := by
    intro place line found
    rw [rowsOf, List.getElem?_mapIdx, Option.map_eq_some_iff] at found
    obtain ⟨bytes, piece, rfl⟩ := found
    obtain ⟨rfl, nonempty⟩ := Slice.of_getElem?_pieces positive piece
    rw [row?_dumpRow _ nonempty, Nat.mul_comm]
  whole := by
    have read : (rowsOf rowSize memory).mapM (fun line => row? line.toList) =
        some ((Slice.pieces rowSize memory.toList).mapIdx fun row bytes =>
          (row * rowSize, row * rowSize, bytes)) :=
      Listing.mapM_mapIdx fun _ _ piece =>
        row?_dumpRow _ (Slice.of_getElem?_pieces positive piece).2
    rw [read, Option.map_some, List.flatMap_def, Listing.map_mapIdx_cancel fun _ _ => rfl,
      Slice.flatten_pieces]

/-- A dump with rows of any length from one on says where each byte of a memory of any size is. -/
theorem dump_dumped (memory : Memory) {rowSize : Int} (positive : 1 ≤ rowSize) :
    ∃ lines, memory.dump rowSize = .ok lines ∧ Dumped memory.toList rowSize.toNat lines := by
  obtain ⟨rowSize, rfl⟩ := Int.eq_ofNat_of_zero_le (by omega : 0 ≤ rowSize)
  have some : 0 < rowSize := by omega
  exact ⟨_, dump_eq some, dumped_rowsOf some memory⟩

theorem plain_dumpRow (offset : Nat) (bytes : List UInt8) :
    plain (dumpRow offset bytes) = true := by
  simp only [dumpRow_eq, plain_append, plain_decimal, plain_hex, Listing.plain_hexColumn]
  rfl

theorem plain_of_mem_rowsOf {line : String} (member : line ∈ rowsOf rowSize memory) :
    plain line = true := by
  obtain ⟨place, inside, rfl⟩ := List.mem_mapIdx.1 member
  exact plain_dumpRow ..

theorem dumpRows_eq (memory : Memory) : memory.dumpRows = rowsOf 32 memory := rfl

theorem length_dumpRows {other : Memory} (size : memory.size = other.size) :
    memory.dumpRows.length = other.dumpRows.length := by
  have positive : 0 < 32 := by decide
  rw [dumpRows_eq, dumpRows_eq, (dumped_rowsOf positive memory).number,
    (dumped_rowsOf positive other).number]
  exact congrArg (fun size => (size + 31) / 32) size

theorem dumpRows_injective {other : Memory} (same : memory.dumpRows = other.dumpRows) :
    memory = other := by
  have shown := dumped_rowsOf (by decide : 0 < 32) memory
  rw [← dumpRows_eq, same, dumpRows_eq] at shown
  have bytes := shown.whole.symm.trans (dumped_rowsOf (by decide : 0 < 32) other).whole
  exact congrArg Memory.mk (Array.toList_inj.1 (Option.some.inj bytes))

end Memory

end ChipEight
