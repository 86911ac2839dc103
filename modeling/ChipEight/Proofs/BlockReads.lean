import ChipEight.Proofs.Loading
import ChipEight.Session

namespace ChipEight.Memory

/-! Which reads of a block stay inside their window.

The check looks at both ends of the window, and what it lets through is cut out of memory.  A
count below zero passes where its end does: the cut is empty then, unless its end lies before the
first address and is counted from the end of memory instead.
-/

variable {memory : Memory} {address count : Int}

/-- What a read of a block may answer: just the bytes that were asked for, all of them in memory,
or a fault of bounds where memory does not have them. -/
inductive Windowed (memory : Memory) (address count : Int) : Except Fault (List UInt8) → Prop where
  | given {block : List UInt8} (low : 0 ≤ address) (possible : 0 ≤ count)
      (within : address + count ≤ memory.size) (length : (block.length : Int) = count)
      (bytes : ∀ place < block.length,
        block[place]? = some (memory.byteAt (address.toNat + place))) :
      Windowed memory address count (.ok block)
  | refused {fault : Fault}
      (outside : ¬ (0 ≤ address ∧ 0 ≤ count ∧ address + count ≤ memory.size))
      (bounds : fault.kind = .bounds) : Windowed memory address count (.error fault)

/-- The windows that pass the check although they end before they start. -/
def Backward (memory : Memory) (address count : Int) : Prop :=
  count < 0 ∧ 0 ≤ address ∧ address + count ≤ memory.size

/-- How many bytes a backward window has: those from its start to an end that is counted from the
end of memory, if it ends before the first address. -/
def wrappedLength (memory : Memory) (address count : Int) : Nat :=
  if address + count < 0 then (memory.size + count).toNat else 0

theorem Backward.readBlock_eq (backward : memory.Backward address count) :
    memory.readBlock address count =
      .ok (memory.blockAt address.toNat (memory.wrappedLength address count)) := by
  obtain ⟨negative, low, within⟩ := backward
  have covered := (memory.covers_eq_ok_iff address count).2 ⟨low, within⟩
  have length : min (Slice.cut memory.size (address + count)) memory.size -
      Slice.cut memory.size address = memory.wrappedLength address count := by
    unfold Slice.cut wrappedLength
    split <;> omega
  have start : memory.wrappedLength address count = 0 ∨
      Slice.cut memory.size address = address.toNat := by
    unfold Slice.cut wrappedLength
    split <;> omega
  simp only [readBlock, covered, ok_bind, pure_eq_ok, toList_extract, length]
  rcases start with empty | start
  · rw [empty]
    rfl
  · rw [start]

theorem readBlock_windowed (forward : ¬ memory.Backward address count) :
    memory.Windowed address count (memory.readBlock address count) := by
  by_cases covered : 0 ≤ address ∧ address + count ≤ memory.size
  · have possible : 0 ≤ count := Int.not_lt.1 fun negative => forward ⟨negative, covered⟩
    obtain ⟨length, rfl⟩ := Int.eq_ofNat_of_zero_le possible
    rw [readBlock_within covered.1 covered.2]
    refine .given covered.1 possible covered.2 (by rw [length_blockAt]) ?_
    intro place inside
    rw [length_blockAt] at inside
    rw [getElem?_blockAt, if_pos inside]
  · rw [readBlock_outside covered]
    exact .refused (fun window => covered ⟨window.1, window.2.2⟩) rfl

/-- A block that is read is the block that was asked for, or is refused because it is not all in
memory, except where a negative length passes the check.  The block then ends as far from the end of
memory as its end lies before the start. -/
theorem readBlock_windowed_iff (memory : Memory) (address count : Int) :
    (memory.Windowed address count (memory.readBlock address count) ↔
        ¬ memory.Backward address count) ∧
      (memory.Backward address count → memory.readBlock address count =
        .ok (memory.blockAt address.toNat (memory.wrappedLength address count))) ∧
      ∀ session : Session, session.machine.memory = memory →
        session.readBytes address count = memory.readBlock address count := by
  refine ⟨⟨?_, readBlock_windowed⟩, Backward.readBlock_eq, ?_⟩
  · intro windowed backward
    rw [backward.readBlock_eq] at windowed
    cases windowed with
    | given _ possible => exact absurd backward.1 (Int.not_lt.2 possible)
  · intro session same
    rw [Session.readBytes, same]

/-- A window of minus three bytes starts beyond the end and passes the check. -/
theorem readBlock_starts_beyond :
    (zeroed 3).Backward 5 (-3) ∧ (zeroed 3).readBlock 5 (-3) = .ok [] ∧
      ∃ session : Session, session.machine.memory = zeroed 3 ∧
        session.readBytes 5 (-3) = .ok [] := by
  have backward : (zeroed 3).Backward 5 (-3) := ⟨by decide, by decide, by decide⟩
  obtain ⟨-, cut, hosted⟩ := readBlock_windowed_iff (zeroed 3) 5 (-3)
  let session : Session :=
    { loadsFont := false, cyclesPerFrame := 1, machine := .powered (zeroed 3), debugger := {},
      total := 0, program := [] }
  exact ⟨backward, cut backward, session, rfl, (hosted session rfl).trans (cut backward)⟩

/-- A read of minus one byte gives all bytes but the last. -/
theorem readBlock_leaves_window :
    ∃ memory : Memory, memory.size = 3 ∧ memory.readBlock 0 (-1) = .ok [0x11, 0x22] ∧
      ¬ memory.Windowed 0 (-1) (memory.readBlock 0 (-1)) := by
  refine ⟨⟨#[0x11, 0x22, 0x33]⟩, rfl, rfl, ?_⟩
  intro windowed
  cases windowed with
  | given _ possible => exact absurd possible (by decide)

end ChipEight.Memory
