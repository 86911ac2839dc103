import ChipEight.Command.Lister
import ChipEight.Proofs.ListingLines

namespace ChipEight

/-! The rows of a hex dump, read back.

A row is a comment with the address and the bytes that a line of a listing has, and with the bytes
as characters behind them.  Sixteen bytes fill the column but for one blank, and the blank behind
the column is the second one that ends it.
-/

open Text

namespace Listing

variable {α β γ : Type} {view : Nat → α → β} {read : β → Option γ} {shown : Nat → α → γ}
  {values : List α}

/-- What is written of each value with its place is read as a whole if each is. -/
theorem mapM_mapIdx (reads : ∀ (place : Nat) (value : α), values[place]? = some value →
    read (view place value) = some (shown place value)) :
    (values.mapIdx view).mapM read = some (values.mapIdx shown) := by
  apply mapM_eq_some
  apply List.ext_getElem?
  intro place
  rw [List.getElem?_map, List.getElem?_mapIdx, List.getElem?_map, List.getElem?_mapIdx]
  cases found : values[place]? with
  | none => rfl
  | some value => exact congrArg some (reads place value found)

theorem map_mapIdx_cancel {back : β → α}
    (cancels : ∀ place value, back (view place value) = value) :
    (values.mapIdx view).map back = values := by
  rw [List.mapIdx_eq_zipIdx_map, List.map_map]
  calc
    values.zipIdx.map _ = values.zipIdx.map Prod.fst :=
      List.map_congr_left fun place _ => cancels place.2 place.1
    _ = values := List.zipIdx_map_fst 0 values

end Listing

namespace Listing.Columns

variable {bytes : List UInt8}

theorem length_hexColumn_lt (nonempty : bytes ≠ []) :
    (hexColumn bytes).length < 3 * bytes.length := by
  induction bytes with
  | nil => exact absurd rfl nonempty
  | cons byte rest induction =>
      cases rest with
      | nil =>
          rw [hexColumn, List.map_singleton, String.intercalate_singleton, length_hexByte,
            List.length_singleton]
          decide
      | cons second rest =>
          have later := induction (List.cons_ne_nil second rest)
          rw [← String.length_toList, toList_hexColumn_cons, List.length_append, List.length_cons,
            String.length_toList, String.length_toList, length_hexByte, List.length_cons]
          omega

/-- The address and the bytes of a row. -/
def row? : List Char → Option (Nat × List UInt8)
  | ';' :: ' ' :: line => do return (← address? line, ← bytes? line)
  | _ => none

theorem row?_comment (text : String) :
    row? ("; " ++ text).toList = do return (← address? text.toList, ← bytes? text.toList) := by
  rw [String.toList_append]
  rfl

end Listing.Columns

open Listing Columns

namespace Command.Lister

variable {start : Nat} {image bytes : List UInt8}

theorem hexRow_eq (address : Int) (bytes : List UInt8) :
    hexRow address bytes = "; " ++ (dollar address ++ (": " ++ (padRight 48 (hexColumn bytes) ++
      (" " ++ String.ofList (bytes.map printedByte))))) := by
  simp only [hexRow, String.append_assoc]
  rfl

theorem row?_hexRow (address : Nat) (nonempty : bytes ≠ []) (few : bytes.length ≤ 16) :
    row? (hexRow address bytes).toList = some (address, bytes) := by
  let characters := String.ofList (bytes.map printedByte)
  let behind := padRight 48 (hexColumn bytes) ++ (" " ++ characters)
  have width := length_hexColumn_lt nonempty
  have column : bytes? (dollar address ++ (": " ++ behind)).toList = some bytes :=
    bytes?_column address nonempty 48 1 characters (by omega)
  rw [hexRow_eq, row?_comment, address?_line, column]
  rfl

theorem printed_printedByte (byte : UInt8) : printed (printedByte byte) = true := by
  have all : ∀ code : Fin 0x7F, 0x20 ≤ code.val → printed (.ofNat code.val) = true := by decide
  unfold printedByte
  split
  · next range => exact all ⟨byte.toNat, range.2⟩ range.1
  · rfl

theorem plain_hexRow (address : Int) (bytes : List UInt8) :
    plain (hexRow address bytes) = true := by
  have characters : (bytes.map printedByte).all printed = true := by simp [printed_printedByte]
  simp only [hexRow_eq, plain_append, plain_dollar, plain_padRight, plain_hexColumn, plain_ofList,
    characters]
  rfl

theorem plain_hexRule : plain hexRule = true := by
  rw [hexRule, plain_append, plain_ofList]
  rfl

/-- The rows between the rules of a dump. -/
def hexRows (image : List UInt8) (address : Int) : List String :=
  (Slice.pieces 16 image).mapIdx fun row => hexRow (address + row * 16)

theorem hexDump_eq (image : List UInt8) (address : Int) :
    hexDump image address = ["; Hex dump:", hexRule] ++ hexRows image address ++ [hexRule, ""] :=
  rfl

/-- Each row as it reads: its address and its bytes. -/
def table (image : List UInt8) (start : Nat) : List (Nat × List UInt8) :=
  (Slice.pieces 16 image).mapIdx fun place bytes => (start + 16 * place, bytes)

theorem map_snd_table (image : List UInt8) (start : Nat) :
    (table image start).map Prod.snd = Slice.pieces 16 image :=
  map_mapIdx_cancel fun _ _ => rfl

theorem row?_of_piece {place : Nat} (found : (Slice.pieces 16 image)[place]? = some bytes) :
    row? (hexRow (start + place * 16) bytes).toList = some (start + 16 * place, bytes) := by
  have counted : (start + place * 16 : Int) = (start + 16 * place : Nat) := by omega
  obtain ⟨-, nonempty⟩ := Slice.of_getElem?_pieces (by decide) found
  rw [counted]
  exact row?_hexRow _ nonempty
    (Slice.length_le_of_mem_pieces (by decide) (List.mem_of_getElem? found))

theorem mapM_row?_hexRows (image : List UInt8) (start : Nat) :
    (hexRows image start).mapM (fun row => row? row.toList) = some (table image start) :=
  mapM_mapIdx fun _ _ piece => row?_of_piece piece

/-- Rows that show an image from an address on, with sixteen bytes in each but the last. -/
structure Dumped (image : List UInt8) (start : Nat) (rows : List String) : Prop where
  number : rows.length = (image.length + 15) / 16
  unbroken : ∀ row ∈ rows, '\n' ∉ row.toList
  read : ∀ (place : Nat) (row : String), rows[place]? = some row →
    row? row.toList = some (start + 16 * place, (image.drop (16 * place)).take 16)
  whole : (rows.mapM fun row => row? row.toList).map (List.flatMap Prod.snd) = some image

theorem plain_of_mem_hexRows {address : Int} {row : String} (member : row ∈ hexRows image address) :
    plain row = true := by
  obtain ⟨place, inside, rfl⟩ := List.mem_mapIdx.1 member
  exact plain_hexRow ..

theorem dumped_hexRows (image : List UInt8) (start : Nat) :
    Dumped image start (hexRows image start) where
  number := by rw [hexRows, List.length_mapIdx, Slice.length_pieces (by decide)]
  unbroken row member := notMem_of_plain (plain_of_mem_hexRows member) rfl
  read := by
    intro place row found
    rw [hexRows, List.getElem?_mapIdx, Option.map_eq_some_iff] at found
    obtain ⟨bytes, piece, rfl⟩ := found
    obtain ⟨rfl, -⟩ := Slice.of_getElem?_pieces (by decide) piece
    exact row?_of_piece piece
  whole := by
    rw [mapM_row?_hexRows, Option.map_some, List.flatMap_def,
      map_snd_table, Slice.flatten_pieces]

end Command.Lister

end ChipEight
