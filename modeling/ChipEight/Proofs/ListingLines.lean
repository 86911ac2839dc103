import Mathlib.Data.List.Basic
import Mathlib.Data.Nat.Digits.Defs
import ChipEight.Proofs.Assembling
import ChipEight.Proofs.Coverage
import ChipEight.Proofs.PlainText

namespace ChipEight

/-! The columns of a listing, read back.

A line starts with its address, up to the first colon, and with its bytes, up to the first two
blanks.  Neither digits nor the single blanks between bytes can be taken for the end of a column, so
that the lines of a listing together tell where it starts and every byte of the image.
-/

namespace Text

/-- The lines of a text without a line end behind the last of them.  A text of no characters has
no lines. -/
def linesOf (text : String) : List (List Char) :=
  if text = "" then [] else text.toList.splitOn '\n'

theorem linesOf_intercalate {lines : List String} (filled : ∀ line ∈ lines, line ≠ "")
    (whole : ∀ line ∈ lines, '\n' ∉ line.toList) :
    linesOf ("\n".intercalate lines) = lines.map String.toList := by
  cases lines with
  | nil => simp [linesOf]
  | cons first rest =>
      have some : "\n".intercalate (first :: rest) ≠ "" := by
        cases rest with
        | nil => simpa using filled first List.mem_cons_self
        | cons second rest => simp [String.intercalate_cons_cons]
      have apart : ∀ line ∈ (first :: rest).map String.toList, '\n' ∉ line := by
        intro line member
        obtain ⟨text, listed, rfl⟩ := List.mem_map.1 member
        exact whole text listed
      rw [linesOf, if_neg some, String.toList_intercalate]
      exact List.splitOn_intercalate '\n' apart (by simp)

variable {base : Nat} {digits : List Char}

/-- A number is read from digits only. -/
theorem digit_of_number? {n : Nat} (read : number? base digits = some n) :
    ∀ c ∈ digits, digitValue? base c ≠ none := by
  -- The reader goes on from the total of the digits before.
  have general : ∀ (digits : List Char) (total : Nat), digits.foldlM
      (fun total digit => (digitValue? base digit).map (total * base + ·)) total = some n →
        ∀ c ∈ digits, digitValue? base c ≠ none := by
    intro digits
    induction digits with
    | nil => simp
    | cons first rest induction =>
        intro total read c member
        rw [List.foldlM_cons, Option.bind_eq_bind, Option.bind_eq_some_iff] at read
        obtain ⟨next, here, later⟩ := read
        rcases List.mem_cons.1 member with rfl | behind
        · intro none
          rw [none] at here
          cases here
        · exact induction next later c behind
  exact general digits 0 read

theorem notMem_hex {width n : Nat} {c : Char} (other : digitValue? 16 c = none) :
    c ∉ (hex width n).toList := fun member => digit_of_number? (number?_hex width n) c member other

theorem length_hex {width n : Nat} (few : (hexDigits n).length ≤ width) :
    (hex width n).toList.length = width := by
  rw [toList_hex, List.length_leftpad]
  omega

theorem toList_hexByte (byte : UInt8) :
    ∃ high low, (hexByte byte).toList = [high, low] ∧ high ≠ ' ' := by
  have few : (hexDigits byte.toNat).length ≤ 2 := by
    rw [hexDigits, List.length_map]
    exact Nat.toDigits_length 16 byte.toNat 2 (by decide) byte.toNat_lt
  have length : (hexByte byte).toList.length = 2 := length_hex few
  have none : ' ' ∉ (hexByte byte).toList := notMem_hex rfl
  obtain ⟨high, low, found⟩ := List.length_eq_two.1 length
  refine ⟨high, low, found, ?_⟩
  rintro rfl
  rw [found] at none
  exact none List.mem_cons_self

theorem length_hexByte (byte : UInt8) : (hexByte byte).length = 2 := by
  obtain ⟨high, low, digits, -⟩ := toList_hexByte byte
  rw [← String.length_toList, digits]
  rfl

end Text

open Text

namespace Listing

namespace Columns

/-- A text parted at its first colon with a blank behind it. -/
def atColon? : List Char → Option (List Char × List Char)
  | ':' :: ' ' :: behind => some ([], behind)
  | c :: rest => (atColon? rest).map fun (before, behind) => (c :: before, behind)
  | [] => none

/-- The hexadecimal number between a dollar sign and the first colon with a blank behind it. -/
def address? : List Char → Option Nat
  | '$' :: line => do
      let (digits, _) ← atColon? line
      if digits = [] then none else number? 16 digits
  | _ => none

/-- Bytes of two digits each, with one blank between them, up to the first two blanks. -/
def pairs? : List Char → Option (List UInt8)
  | high :: low :: ' ' :: ' ' :: _ => (Operands.byte? [high, low]).map ([·])
  | high :: low :: ' ' :: rest => do return (← Operands.byte? [high, low]) :: (← pairs? rest)
  | _ => none

/-- The bytes behind the address of a line. -/
def bytes? (line : List Char) : Option (List UInt8) := do
  let (_, behind) ← atColon? line
  pairs? behind

variable {before behind : List Char} {bytes : List UInt8}

theorem atColon?_append (apart : ':' ∉ before) (behind : List Char) :
    atColon? (before ++ ':' :: ' ' :: behind) = some (before, behind) := by
  induction before with
  | nil => rfl
  | cons c rest induction =>
      obtain ⟨here, later⟩ := not_or.1 (mt List.mem_cons.2 apart)
      rw [List.cons_append, atColon?, induction later]
      · rfl
      · rintro tail rfl
        exact absurd rfl here

theorem toList_dollar (n : Nat) : (dollar n).toList = '$' :: (hex 4 n).toList := by
  rw [dollar, String.toList_append]
  rfl

theorem toList_line (address : Nat) (behind : String) :
    (dollar address ++ (": " ++ behind)).toList =
      '$' :: ((hex 4 address).toList ++ ':' :: ' ' :: behind.toList) := by
  rw [String.toList_append, String.toList_append, toList_dollar]
  rfl

theorem address?_line (address : Nat) (behind : String) :
    address? (dollar address ++ (": " ++ behind)).toList = some address := by
  have nonempty : (hex 4 address).toList ≠ [] := by
    intro none
    have length := congrArg List.length none
    rw [toList_hex, List.length_leftpad, List.length_nil] at length
    omega
  rw [toList_line, address?, atColon?_append (notMem_hex rfl)]
  simp only [Option.bind_eq_bind, Option.bind_some, if_neg nonempty, number?_hex]

theorem bytes?_line (address : Nat) (behind : String) :
    bytes? (dollar address ++ (": " ++ behind)).toList = pairs? behind.toList := by
  have apart : ':' ∉ '$' :: (hex 4 address).toList := by
    rw [List.mem_cons, not_or]
    exact ⟨by decide, notMem_hex rfl⟩
  rw [toList_line, ← List.cons_append, bytes?, atColon?_append apart]
  rfl

theorem toList_hexColumn_cons (byte second : UInt8) (rest : List UInt8) :
    (hexColumn (byte :: second :: rest)).toList =
      (hexByte byte).toList ++ ' ' :: (hexColumn (second :: rest)).toList := by
  simp only [hexColumn, List.map_cons, String.intercalate_cons_cons, String.toList_append,
    List.append_assoc]
  rfl

theorem toList_hexColumn_singleton (byte : UInt8) :
    (hexColumn [byte]).toList = (hexByte byte).toList := by
  rw [hexColumn, List.map_singleton, String.intercalate_singleton]

/-- A column starts with a digit. -/
theorem exists_first (nonempty : bytes ≠ []) :
    ∃ first rest, (hexColumn bytes).toList = first :: rest ∧ first ≠ ' ' := by
  match bytes with
  | [] => exact absurd rfl nonempty
  | [byte] =>
      obtain ⟨high, low, digits, filled⟩ := toList_hexByte byte
      exact ⟨high, [low], (toList_hexColumn_singleton byte).trans digits, filled⟩
  | byte :: second :: rest =>
      obtain ⟨high, low, digits, filled⟩ := toList_hexByte byte
      rw [toList_hexColumn_cons, digits]
      exact ⟨high, _, rfl, filled⟩

theorem pairs?_next {first : Char} (filled : first ≠ ' ') (high low : Char) (rest : List Char) :
    pairs? (high :: low :: ' ' :: first :: rest) =
      (Operands.byte? [high, low]).bind fun byte =>
        (pairs? (first :: rest)).map (byte :: ·) := by
  rw [pairs?]
  · cases Operands.byte? [high, low] with
    | none => rfl
    | some byte => cases pairs? (first :: rest) <;> rfl
  · rintro tail same
    exact filled (List.cons.inj same).1

/-- Behind the last byte of a column there are at least two blanks, and one between two bytes. -/
theorem pairs?_hexColumn (nonempty : bytes ≠ []) (blanks : Nat) (rest : List Char) :
    pairs? ((hexColumn bytes).toList ++ (List.replicate (blanks + 2) ' ' ++ rest)) = some bytes := by
  induction bytes with
  | nil => exact absurd rfl nonempty
  | cons byte others induction =>
      obtain ⟨high, low, digits, -⟩ := toList_hexByte byte
      have read : Operands.byte? [high, low] = some byte := digits ▸ Operands.byte?_hex byte
      cases others with
      | nil =>
          rw [toList_hexColumn_singleton, digits]
          change (Operands.byte? [high, low]).map ([·]) = _
          rw [read, Option.map_some]
      | cons second others =>
          have more := List.cons_ne_nil second others
          have later := induction more
          obtain ⟨first, tail, column, filled⟩ := exists_first more
          rw [toList_hexColumn_cons, digits, column]
          rw [column] at later
          change pairs? (high :: low :: ' ' :: first :: (tail ++ _)) = _
          rw [pairs?_next filled, read, Option.bind_some, ← List.cons_append, later,
            Option.map_some]

theorem bytes?_column (address : Nat) (nonempty : bytes ≠ []) (width blanks : Nat) (rest : String)
    (apart : 2 ≤ width - (hexColumn bytes).length + blanks) :
    bytes? (dollar address ++ (": " ++ (padRight width (hexColumn bytes) ++
      (String.ofList (List.replicate blanks ' ') ++ rest)))).toList = some bytes := by
  obtain ⟨more, enough⟩ := Nat.exists_eq_add_of_le' apart
  rw [bytes?_line, padRight, String.toList_append, String.toList_append, String.toList_append,
    String.toList_ofList, String.toList_ofList, List.append_assoc,
    ← List.append_assoc _ _ rest.toList, List.replicate_append_replicate, enough,
    pairs?_hexColumn nonempty]

end Columns

open Columns

variable {start : Nat} {image : List UInt8} {item : Item}

theorem bytes_ne_nil_of_mem_items {address : Int} (listed : item ∈ items address image) :
    item.bytes ≠ [] := by
  obtain ⟨place, found⟩ := List.mem_iff_getElem?.1 listed
  rw [getElem?_items] at found
  obtain ⟨-, -, -, size⟩ := Item.ofPiece?_eq_some found
  intro none
  rw [Item.size, none] at size
  simp at size

/-- Lines with and without bytes start with the same address. -/
theorem address?_of_getElem? {place : Nat} (found : (items start image)[place]? = some item) :
    address? item.line.toList = some (start + 2 * place) ∧
      address? item.shortLine.toList = some (start + 2 * place) := by
  have counted : item.address = (start + 2 * place : Nat) :=
    items_placed start image place item found
  obtain ⟨behind, line, -⟩ := item.line_eq
  obtain ⟨shortBehind, shortLine, -⟩ := item.shortLine_eq
  rw [line, shortLine, counted]
  exact ⟨address?_line .., address?_line ..⟩

theorem bytes?_of_mem (listed : item ∈ items start image) :
    bytes? item.line.toList = some item.bytes := by
  obtain ⟨place, found⟩ := List.mem_iff_getElem?.1 listed
  have counted : item.address = (start + 2 * place : Nat) :=
    items_placed start image place item found
  obtain ⟨rest, line, -⟩ := item.line_eq
  rw [line, counted]
  exact bytes?_column _ (bytes_ne_nil_of_mem_items listed) 5 2 rest (Nat.le_add_left ..)

theorem text_eq (image : List UInt8) (start : Int) :
    text image start none = .ok ("\n".intercalate ((items start image).map Item.line)) := by
  rw [text, disassemble_eq_list]
  rfl

theorem linesOf_lines (image : List UInt8) (start : Nat) :
    linesOf ("\n".intercalate ((items start image).map Item.line)) =
      (items start image).map fun item => item.line.toList := by
  have listed : ∀ line ∈ (items start image).map Item.line, line ≠ "" ∧ '\n' ∉ line.toList := by
    intro line member
    obtain ⟨item, found, rfl⟩ := List.mem_map.1 member
    refine ⟨fun none => ?_, notMem_of_plain (Item.plain_line (plain_of_mem_items found)) rfl⟩
    have read := bytes?_of_mem found
    rw [none] at read
    cases read
  rw [linesOf_intercalate (fun line member => (listed line member).1)
    (fun line member => (listed line member).2), List.map_map]
  rfl

theorem mapM_eq_some {α β : Type} {read : α → Option β} {values : List α} {results : List β}
    (each : values.map read = results.map some) : values.mapM read = some results :=
  calc
    values.mapM read = (values.map read).mapM id := by rw [List.mapM_map]; rfl
    _ = (results.map some).mapM id := by rw [each]
    _ = results.mapM fun result => pure (id result) := by rw [List.mapM_map]; rfl
    _ = some (results.map id) := List.mapM_pure
    _ = some results := congrArg some (List.map_id results)

/-- A listing as text has a line for each item, and each line tells its address and its bytes, so
that the whole image is read back from it. -/
theorem text_reads_back (image : List UInt8) (start : Nat) :
    ∃ written, text image start none = .ok written ∧
      let lines := linesOf written
      lines.length = (list image start none none).length ∧
        (image = [] → lines = []) ∧
        (∀ (place : Nat) (line : List Char), lines[place]? = some line →
          address? line = some (start + 2 * place)) ∧
        (lines.mapM bytes?).map List.flatten = some image := by
  refine ⟨_, text_eq image start, ?_⟩
  intro lines
  have shown : lines = (items start image).map fun item => item.line.toList :=
    linesOf_lines image start
  refine ⟨?_, ?_, ?_, ?_⟩
  · rw [shown, List.length_map]
    rfl
  · rintro rfl
    rw [shown]
    rfl
  · intro place line found
    rw [shown, List.getElem?_map, Option.map_eq_some_iff] at found
    obtain ⟨item, listed, rfl⟩ := found
    exact (address?_of_getElem? listed).1
  · have read : lines.mapM bytes? = some ((items start image).map Item.bytes) := by
      apply mapM_eq_some
      rw [shown, List.map_map, List.map_map]
      exact List.map_congr_left fun item listed => bytes?_of_mem listed
    rw [read, Option.map_some, ← List.flatMap_def, flatMap_bytes_items]

end Listing

end ChipEight
