import ChipEight.Proofs.Drawing
import ChipEight.Proofs.Shape

namespace ChipEight.Screen

/-! Packing a picture of any size.

What is packed is read as it was, and what is read is packed again, but for the bits that no pixel
stands for.  Too few bytes are refused before a pixel is written.
-/

variable {screen : Screen} {across down : Nat}

theorem snapshot_bytes (screen : Screen) : ∀ value ∈ screen.snapshot, 0 ≤ value ∧ value < 256 := by
  intro value member
  obtain ⟨packed, found, rfl⟩ := List.mem_map.1 member
  obtain ⟨row, -, inRow⟩ := List.mem_flatMap.1 found
  obtain ⟨piece, -, rfl⟩ := List.mem_map.1 inRow
  have small := packByte_lt 8 piece
  change 0 ≤ (packByte 8 piece : Int) ∧ (packByte 8 piece : Int) < 256
  omega

/-- Pictures of any size are packed into bytes and unpacked again, also where a row does not fill
its last byte.  Of bytes that are enough for a picture only the surplus bits are lost, and too few of
them are refused. -/
theorem packing_of_any_size (measures : screen.Measures across down) :
    (screen.snapshot.length = screen.packedSize ∧
        ∀ value ∈ screen.snapshot, 0 ≤ value ∧ value < 256) ∧
      (∀ target : Screen, target.Measures across down → ∀ before after : List Int,
        target.restore (before ++ (screen.snapshot ++ after)) before.length =
          .ok screen.packedSize screen) ∧
      ∀ (data : List UInt8) (offset : Nat),
        (offset + screen.packedSize ≤ data.length →
          ∃ left : Screen, screen.restore (numbers data) offset = .ok screen.packedSize left ∧
            left.Measures across down ∧
            left.snapshot = ((numbers (data.drop offset)).take screen.packedSize.toNat).mapIdx
              (trimmed across)) ∧
        (data.length < offset + screen.packedSize →
          screen.restore (numbers data) offset = .error (.truncated .display) screen ∧
            (Fault.truncated .display).kind = .value) := by
  have size := measures.packedSize_eq
  refine ⟨⟨?_, screen.snapshot_bytes⟩, ?_, ?_⟩
  · rw [measures.length_snapshot, size]
  · intro target same before after
    exact same.restore_snapshot measures
  · intro data offset
    constructor
    · intro enough
      obtain ⟨picture, cut⟩ : ∃ picture,
          picture = (numbers (data.drop offset)).take screen.packedSize.toNat := ⟨_, rfl⟩
      have length : picture.length = stride across * down := by
        rw [cut, List.length_take, length_numbers, List.length_drop]
        omega
      have bytes : ∀ value ∈ picture, 0 ≤ value ∧ value < 256 := by
        intro value member
        rw [cut] at member
        exact byte_of_mem_numbers (List.mem_of_mem_take member)
      have parts : numbers data = numbers (data.take offset) ++
          (picture ++ (numbers (data.drop offset)).drop screen.packedSize.toNat) := by
        rw [cut, List.take_append_drop, ← numbers_append, List.take_append_drop]
      have place : (numbers (data.take offset)).length = offset := by
        rw [length_numbers, List.length_take]
        omega
      obtain ⟨left, restored, packed⟩ := measures.snapshot_restored length bytes
      rw [← parts, place] at restored
      have shape := screen.restore_sameShape (numbers data) offset
      rw [restored] at shape
      exact ⟨left, restored, shape.measures measures, cut ▸ packed⟩
    · intro short
      rw [restore, if_pos]
      · exact ⟨rfl, rfl⟩
      · rw [length_numbers]
        omega

/-- A row of ten pixels takes two bytes, of which the second has six bits too many. -/
theorem packing_of_ten_columns :
    ∃ screen target : Screen, screen.Measures 10 2 ∧ target.Measures 10 2 ∧
      target.restore ([7] ++ (screen.snapshot ++ [])) 1 = .ok 4 screen ∧
      (1 + screen.packedSize ≤ 5 ∧
        ∃ left : Screen, screen.restore (numbers [0, 0xFF, 0xFF, 0xAA, 0x7F]) 1 = .ok 4 left ∧
          left.snapshot = [0xFF, 0xC0, 0xAA, 0x40]) ∧
      1 < 0 + screen.packedSize ∧
      screen.restore (numbers [0xFF]) 0 = .error (.truncated .display) screen := by
  let screen : Screen :=
    { blank 10 2 with
      rows := [List.replicate 10 true, List.replicate 9 false ++ [true]] }
  have measures : screen.Measures 10 2 :=
    { width := rfl
      height := rfl
      rows := rfl
      columns := by decide }
  have target : (blank 10 2).Measures 10 2 :=
    { width := rfl
      height := rfl
      rows := rfl
      columns := by decide }
  have size : screen.packedSize = 4 := rfl
  obtain ⟨-, repeated, applied⟩ := packing_of_any_size measures
  have enough : 1 + screen.packedSize ≤ 5 := by omega
  have short : 1 < 0 + screen.packedSize := by omega
  obtain ⟨left, restored, -, packed⟩ := (applied [0, 0xFF, 0xFF, 0xAA, 0x7F] 1).1 enough
  obtain ⟨refused, -⟩ := (applied [0xFF] 0).2 short
  exact ⟨screen, _, measures, target, repeated _ target [7] [], ⟨enough, left, restored, packed⟩,
    short, refused⟩

end ChipEight.Screen
