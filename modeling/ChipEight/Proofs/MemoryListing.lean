import ChipEight.Proofs.Coverage
import ChipEight.Proofs.Step
import ChipEight.Session

namespace ChipEight

/-! Listings of memory from any address on.

What is left of memory is read first, and a listing is made of that.  At the end of memory nothing
is left and nothing listed; further on the read of no bytes is refused, and the listing with it.
-/

namespace Memory

variable {memory : Memory} {start : Int}

theorem blockAt_eq_take {address count : Nat} (within : address + count ≤ memory.size) :
    memory.blockAt address count = (memory.toList.drop address).take count := by
  apply List.ext_getElem?
  intro place
  rw [getElem?_blockAt, List.getElem?_take]
  split
  · rw [List.getElem?_drop, getElem?_toList (by omega)]
  · rfl

theorem length_toList (memory : Memory) : memory.toList.length = memory.size := Array.length_toList

/-- Read are as many bytes as so many words have, or as are left. -/
theorem readBlock_rest (low : 0 ≤ start) (within : start ≤ memory.size) (count : Int) :
    memory.readBlock start (max 0 (min (count * 2) (memory.size - start))) =
      .ok ((memory.toList.drop start.toNat).take (2 * count).toNat) := by
  obtain ⟨size, enough⟩ := Int.eq_ofNat_of_zero_le
    (Int.le_max_left 0 (min (count * 2) (memory.size - start)))
  have block : memory.blockAt start.toNat size =
      (memory.toList.drop start.toNat).take (2 * count).toNat := by
    rw [blockAt_eq_take (by omega), List.take_eq_take_iff, List.length_drop, length_toList]
    omega
  rw [enough, readBlock_within low (by omega), block]

theorem readBlock_beyond (beyond : memory.size < start) (count : Int) :
    memory.readBlock start (max 0 (min (count * 2) (memory.size - start))) =
      .error (.outsideMemory start 0 memory.size) := by
  have nothing : max 0 (min (count * 2) (memory.size - start)) = 0 := by omega
  rw [nothing, readBlock_outside (by omega)]

end Memory

namespace Machine

/-- A program that fills memory jumps to its last word, and skips from there. -/
theorem exists_off_end :
    ∃ (program : List UInt8) (memory : Memory) (last : Machine),
      loaded none program = .ok (powered memory) ∧ steps 2 (powered memory) = .ok () last ∧
      last.pc = 0x1002 ∧ last.memory.size = memorySize := by
  obtain ⟨front, starts, length⟩ : ∃ front : List UInt8,
      (front[0]? = some 0x1F ∧ front[1]? = some 0xFE) ∧ front.length = 3582 :=
    ⟨0x1F :: 0xFE :: List.replicate 3580 0, ⟨rfl, rfl⟩, by
      rw [List.length_cons, List.length_cons, List.length_replicate]⟩
  have whole : (front ++ [0x30, 0x00]).length = 3584 := by
    rw [List.length_append, length]
    rfl
  obtain ⟨memory, run, size, bytes⟩ :=
    loaded_ok none (front ++ [0x30, 0x00]) (by simp) (Nat.le_of_eq whole)
  have stored (place : Nat) (inside : place < 3584) :
      memory.byteAt (0x200 + place) = (front ++ [0x30, 0x00])[place]?.getD 0 := by
    rw [bytes, imageByte, programStart, whole, if_pos (by omega), Nat.add_sub_cancel_left,
      List.getD_eq_getElem?_getD]
  have first (place : Nat) (inside : place < 2) :
      memory.byteAt (0x200 + place) = front[place]?.getD 0 := by
    rw [stored place (by omega), List.getElem?_append_left (by omega)]
  have last (place : Nat) (inside : place < 2) :
      memory.byteAt (0xFFE + place) = ([0x30, 0x00] : List UInt8)[place]?.getD 0 := by
    have byte := stored (3582 + place) (by omega)
    rw [List.getElem?_append_right (by omega), length, Nat.add_sub_cancel_left,
      ← Nat.add_assoc] at byte
    exact byte
  let stage (pc opcode : Int) : Machine := { powered memory with pc, opcode }
  have jump : (powered memory).step = .ok () (stage 0xFFE 0x1FFE) := by
    have high : memory.byteAt 0x200 = 0x1F := by simpa [starts] using first 0 (by omega)
    have low : memory.byteAt 0x201 = 0xFE := by simpa [starts] using first 1 (by omega)
    have peeked : (powered memory).peek = .ok (.ofBytes 0x1F 0xFE) :=
      peek_of_bytes (rfl : _ = ((0x200 : Nat) : Int)) size (by omega) high low
    exact step_of_execute peeked rfl rfl rfl
  have skip : (stage 0xFFE 0x1FFE).step = .ok () (stage 0x1002 0x3000) := by
    have peeked : (stage 0xFFE 0x1FFE).peek = .ok (.ofBytes 0x30 0x00) :=
      peek_of_bytes (rfl : _ = ((0xFFE : Nat) : Int)) size (by omega) (last 0 (by omega))
        (last 1 (by omega))
    exact step_of_execute peeked rfl rfl rfl
  have ran : steps 2 (powered memory) = .ok () (stage 0x1002 0x3000) := by
    rw [steps_succ 1 jump, steps_succ 0 skip, steps]
  exact ⟨_, memory, _, run, ran, rfl, size⟩

end Machine

namespace Listing

theorem itemAt_inside (address : Int) {image : List UInt8} {offset : Nat}
    (inside : offset < image.length) :
    ∃ item, itemAt image address offset = .ok item ∧
      Item.ofPiece? address ((image.drop offset).take 2) = some item := by
  have length : (image.take offset).length = offset := by
    rw [List.length_take, Nat.min_eq_left (Nat.le_of_lt inside)]
  have parts := List.take_append_drop offset image
  match left : image.drop offset with
  | [] => exact absurd (List.drop_eq_nil_iff.1 left) (Nat.not_le.2 inside)
  | [byte] =>
      have found := itemAt_last (image.take offset) address byte
      rw [length, ← left, parts] at found
      exact ⟨_, found, rfl⟩
  | high :: low :: after =>
      have found := itemAt_pair (image.take offset) after address high low
      change itemAt (image.take offset ++ high :: low :: after) _ _ = _ at found
      rw [length, ← left, parts] at found
      exact ⟨_, found, rfl⟩

/-- So many items need no more than twice as many bytes. -/
theorem list_take (image : List UInt8) (start count : Int) :
    list (image.take (2 * count).toNat) start (some count) none =
      list image start (some count) none := by
  have double : (2 * count).toNat = 2 * count.toNat := by omega
  change (items start (image.take (2 * count).toNat)).take count.toNat =
    (items start image).take count.toNat
  rw [double, items_take, List.take_take, Nat.min_self]

end Listing

namespace Session

open Listing

variable {start count : Int}

/-- The lines of so many items that memory shows from an address on, as far as it goes. -/
structure ListsFrom (memory : Memory) (start count : Int) (lines : List String) : Prop where
  length : (lines.length : Int) = min count ((max 0 (0x1000 - start) + 1) / 2)
  line : ∀ (place : Nat) (line : String), lines[place]? = some line →
    ∃ item, itemAt memory.toList (start + 2 * place) (start + 2 * place) = .ok item ∧
      line = item.line ∧ item.size = if start + 2 * place = 0xFFF then 1 else 2

theorem listing_eq (session : Session) (address : Option Int) (count : Int)
    (low : 0 ≤ address.getD session.machine.pc)
    (within : address.getD session.machine.pc ≤ session.machine.memory.size) :
    let start := address.getD session.machine.pc
    session.listing address count =
      .ok ((list (session.machine.memory.toList.drop start.toNat) start (some count) none).map
        Item.line) := by
  intro start
  simp only [listing, Memory.readBlock_rest low within, disassemble_eq_list, ok_bind, pure_eq_ok,
    list_take, start]

theorem listing_beyond (session : Session) (address : Option Int) (count : Int)
    (beyond : session.machine.memory.size < address.getD session.machine.pc) :
    session.listing address count =
      .error (.outsideMemory (address.getD session.machine.pc) 0 session.machine.memory.size) := by
  simp only [listing, Memory.readBlock_beyond beyond, error_bind]

theorem listsFrom_rest {memory : Memory} (size : memory.size = 0x1000) (low : 0 ≤ start)
    (within : start ≤ 0x1000) (possible : 0 ≤ count) :
    ListsFrom memory start count
      ((list (memory.toList.drop start.toNat) start (some count) none).map Item.line) where
  length := by
    rw [List.length_map, length_list, List.length_drop, Memory.length_toList, size]
    simp only [quota, atMost, Option.map_some, Option.map_none, Option.elim_some,
      Option.elim_none]
    omega
  line := by
    intro place line found
    rw [List.getElem?_map, Option.map_eq_some_iff] at found
    obtain ⟨item, listed, rfl⟩ := found
    have inside := (List.getElem?_eq_some_iff.1 listed).1
    have near := quota_le (memory.toList.drop start.toNat).length (some count) none
    rw [length_list] at inside
    rw [List.length_drop, Memory.length_toList, size] at inside near
    have length : start.toNat + 2 * place < memory.toList.length := by
      rw [Memory.length_toList, size]
      omega
    obtain ⟨other, asked, shown⟩ := itemAt_inside (start + 2 * place) length
    have same := ofPiece?_of_mem_list listed
    rw [List.drop_drop, shown, Option.some.injEq] at same
    subst same
    have offset : ((start.toNat + 2 * place : Nat) : Int) = start + 2 * place := by omega
    rw [offset] at asked
    refine ⟨other, asked, rfl, ?_⟩
    obtain ⟨-, bytes, -, -⟩ := Item.ofPiece?_eq_some shown
    rw [Item.size, bytes, List.length_take, List.length_drop, Memory.length_toList, size]
    split <;> omega

/-- Memory can be listed from every address up to its end, where the listing is empty.  Beyond the
end it fails, since even no bytes cannot be read there. -/
theorem listing_at_iff (session : Session) (address : Option Int)
    (size : session.machine.memory.size = Machine.memorySize)
    (low : 0 ≤ address.getD session.machine.pc) (possible : 0 ≤ count) :
    ((∃ lines, session.listing address count = .ok lines ∧
        ListsFrom session.machine.memory (address.getD session.machine.pc) count lines) ↔
      address.getD session.machine.pc ≤ 0x1000) ∧
    (0x1000 < address.getD session.machine.pc →
      session.listing address count =
        .error (.outsideMemory (address.getD session.machine.pc) 0 0x1000)) := by
  have last : session.machine.memory.size = 0x1000 := size
  have refused (beyond : 0x1000 < address.getD session.machine.pc) :
      session.listing address count =
        .error (.outsideMemory (address.getD session.machine.pc) 0 0x1000) := by
    rw [← last]
    exact listing_beyond session address count (by omega)
  refine ⟨⟨?_, ?_⟩, refused⟩
  · rintro ⟨lines, listed, -⟩
    refine Int.not_lt.1 fun beyond => ?_
    cases (refused beyond).symm.trans listed
  · intro within
    exact ⟨_, listing_eq session address count low (by omega), listsFrom_rest last low within possible⟩

/-- The last byte of memory is listed on its own. -/
theorem listing_at_last_byte :
    ∃ session : Session, session.machine.memory.size = Machine.memorySize ∧
      session.machine.pc = 0xFFF ∧ (0 : Int) ≤ 0xFFF ∧ (0 : Int) ≤ 10 ∧
      ∃ lines, session.listing none 10 = .ok lines ∧ lines.length = 1 := by
  let session : Session :=
    { loadsFont := false, cyclesPerFrame := 1,
      machine := { Machine.powered (.zeroed Machine.memorySize) with pc := 0xFFF },
      debugger := {}, total := 0, program := [] }
  have size : session.machine.memory.size = Machine.memorySize := Memory.size_zeroed _
  have low : (0 : Int) ≤ 0xFFF := by omega
  have possible : (0 : Int) ≤ 10 := by omega
  have within : (0xFFF : Int) ≤ 0x1000 := by omega
  obtain ⟨answered, -⟩ := listing_at_iff session none size low possible
  obtain ⟨lines, listed, shown⟩ := answered.2 within
  have length : (lines.length : Int) = min 10 ((max 0 (0x1000 - 0xFFF) + 1) / 2) := shown.length
  exact ⟨session, size, rfl, low, possible, lines, listed, by omega⟩

/-- A skip at the end of memory leads two bytes beyond it, where nothing can be listed. -/
theorem listing_fails_off_end :
    ∃ (program : List UInt8) (memory : Memory) (last : Machine),
      Machine.loaded none program = .ok (.powered memory) ∧
      Machine.steps 2 (.powered memory) = .ok () last ∧ last.pc = 0x1002 ∧
      ∀ session : Session, session.machine = last →
        session.listing none 1 = .error (.outsideMemory 0x1002 0 0x1000) := by
  obtain ⟨program, memory, last, run, ran, pc, size⟩ := Machine.exists_off_end
  refine ⟨program, memory, last, run, ran, pc, ?_⟩
  rintro session rfl
  have beyond : (session.machine.memory.size : Int) < session.machine.pc := by
    rw [size, pc, Machine.memorySize]
    omega
  have refused := listing_beyond session none 1 beyond
  rw [Option.getD_none, pc, size] at refused
  exact refused

end Session

end ChipEight
