import ChipEight.Proofs.History
import ChipEight.Proofs.Shape

namespace ChipEight

/-! What a cell of memory holds after any series of changes.

Whether a change is made depends on what it is asked to write and on the size of memory, and the
size never changes.  So the series alone tells what a cell holds: what the last change that is
made and covers the cell gives to it.
-/

namespace Slice

theorem window_natCast {α : Type} (values : List α) (start count : Nat) :
    window values start (start + count) = (values.drop start).take count := by
  unfold window
  by_cases inside : start ≤ values.length
  · have first : cut values.length start = start := by
      simp only [cut]
      omega
    rw [first, List.take_eq_take_iff, List.length_drop]
    simp only [cut]
    omega
  · have first : cut values.length start = values.length := by
      simp only [cut]
      omega
    rw [first, List.drop_length, List.drop_eq_nil_of_le (Nat.le_of_not_le inside), List.take_nil,
      List.take_nil]

end Slice

theorem bytesOf_eq_ok_iff {values : List Int} {bytes : List UInt8} :
    bytesOf values = .ok bytes ↔
      (∀ value ∈ values, 0 ≤ value ∧ value < 256) ∧ values.map Bits.lowByte = bytes := by
  simp only [bytesOf, List.all_eq_true, Bool.and_eq_true, decide_eq_true_eq]
  split
  · next range =>
    rw [Except.ok.injEq]
    exact ⟨fun same => ⟨range, same⟩, And.right⟩
  · next range => simp only [reduceCtorEq, range, false_and]

namespace Memory

variable {memory after : Memory} {size cell : Nat} {change : Change}

/-- A block lies within a memory. -/
def Within (size : Nat) (address : Int) (block : List UInt8) : Prop :=
  0 ≤ address ∧ address + block.length ≤ size

instance (size : Nat) (address : Int) (block : List UInt8) :
    Decidable (Within size address block) :=
  inferInstanceAs (Decidable (_ ∧ _))

/-- The byte of a block that comes to lie in a cell. -/
def laid? (address : Int) (block : List UInt8) (cell : Nat) : Option UInt8 :=
  if address ≤ cell then block[(cell - address).toNat]? else none

namespace Change

/-- What a change has to meet to be made. -/
def Fits (size : Nat) : Change → Prop
  | .write address _ => 0 ≤ address ∧ address < size
  | .load address block => Within size address block
  | .writeSlice start stop step block =>
      (step = none ∨ step = some 1) ∧
        (∀ last ∈ stop, last - start.getD 0 = block.length) ∧ Within size (start.getD 0) block
  | .clear => True
  | .restore data offset =>
      (Slice.window data offset (offset + size)).length = size ∧
        ∀ value ∈ Slice.window data offset (offset + size), 0 ≤ value ∧ value < 256

instance (size : Nat) : (change : Change) → Decidable (change.Fits size)
  | .write .. | .load .. | .writeSlice .. | .restore .. => inferInstanceAs (Decidable (_ ∧ _))
  | .clear => inferInstanceAs (Decidable True)

/-- What a change gives to a cell, if it covers it. -/
def given? (size cell : Nat) : Change → Option UInt8
  | .write address value => if address = cell then some (Bits.lowByte value) else none
  | .load address block => laid? address block cell
  | .writeSlice start _ _ block => laid? (start.getD 0) block cell
  | .clear => some 0
  | .restore data offset => (Slice.window data offset (offset + size))[cell]?.map Bits.lowByte

/-- What a change gives to a cell if it is made. -/
def makes? (size cell : Nat) (change : Change) : Option UInt8 :=
  if change.Fits size then change.given? size cell else none

end Change

theorem write_eq_ok_iff {address value : Int} :
    memory.write address value = .ok after ↔
      (0 ≤ address ∧ address < memory.size) ∧
        ⟨memory.bytes.setIfInBounds address.toNat (Bits.lowByte value)⟩ = after := by
  simp only [write, bind_eq_ok_iff]
  constructor
  · rintro ⟨_, covered, written⟩
    have range := (memory.covers_eq_ok_iff address 1).1 covered
    exact ⟨by omega, Except.ok.inj written⟩
  · rintro ⟨range, rfl⟩
    exact ⟨(), (memory.covers_eq_ok_iff address 1).2 (by omega), rfl⟩

theorem load_ok_iff {address : Int} {block : List UInt8} :
    (∃ after, memory.load address block = .ok after) ↔ Within memory.size address block := by
  simp only [load, bind_eq_ok_iff]
  constructor
  · rintro ⟨after, _, covered, -⟩
    exact (memory.covers_eq_ok_iff ..).1 covered
  · intro within
    exact ⟨_, (), (memory.covers_eq_ok_iff ..).2 within, rfl⟩

theorem writeSlice_eq_ok_iff {start stop step : Option Int} {block : List UInt8} :
    memory.writeSlice start stop step block = .ok after ↔
      (step = none ∨ step = some 1) ∧ (∀ last ∈ stop, last - start.getD 0 = block.length) ∧
        memory.load (start.getD 0) block = .ok after := by
  have contiguous : step.getD 1 = 1 ↔ step = none ∨ step = some 1 := by
    cases step <;> simp
  have keeps : (stop.any fun last => last - start.getD 0 ≠ block.length) = false ↔
      ∀ last ∈ stop, last - start.getD 0 = block.length := by
    cases stop <;> simp
  rw [writeSlice, ← contiguous, ← keeps]
  split
  · next scattered => simp only [reduceCtorEq, scattered, false_and]
  · next whole =>
    split
    · next resizing => simp only [reduceCtorEq, resizing, false_and, and_false]
    · next same =>
      rw [Bool.not_eq_true] at same
      simp only [same, Decidable.not_not.1 whole, true_and]

theorem restore_eq_ok_iff {data : List Int} {offset : Int} :
    memory.restore data offset = .ok after ↔
      (Change.restore data offset).Fits memory.size ∧
        ⟨((Slice.window data offset (offset + memory.size)).map Bits.lowByte).toArray⟩ = after := by
  simp only [restore, bind_eq_ok_iff, bytesOf_eq_ok_iff, Change.Fits]
  constructor
  · rintro ⟨block, ⟨range, rfl⟩, rest⟩
    split at rest
    · cases rest
    · next whole =>
      rw [List.length_map, Decidable.not_not] at whole
      exact ⟨⟨whole, range⟩, Except.ok.inj rest⟩
  · rintro ⟨⟨whole, range⟩, rfl⟩
    refine ⟨_, ⟨range, rfl⟩, ?_⟩
    rw [List.length_map, if_neg (not_not_intro whole)]
    rfl

/-- A change is made or refused for what it asks, whatever the memory holds. -/
theorem change_ok_iff :
    (∃ after, memory.change change = .ok after) ↔ change.Fits memory.size := by
  cases change with
  | write address value =>
      simp only [Memory.change, write_eq_ok_iff, exists_and_left, exists_eq', and_true, Change.Fits]
  | load address block => exact load_ok_iff
  | writeSlice start stop step block =>
      simp only [Memory.change, writeSlice_eq_ok_iff, exists_and_left, load_ok_iff, Change.Fits]
  | clear => exact ⟨fun _ => trivial, fun _ => ⟨_, rfl⟩⟩
  | restore data offset =>
      simp only [Memory.change, restore_eq_ok_iff, exists_and_left, exists_eq', and_true]

theorem byteAt_load_laid {address : Int} {block : List UInt8}
    (loaded : memory.load address block = .ok after) :
    after.byteAt cell = (laid? address block cell).getD (memory.byteAt cell) := by
  obtain ⟨low, -⟩ := load_ok_iff.1 ⟨after, loaded⟩
  obtain ⟨address, rfl⟩ := Int.eq_ofNat_of_zero_le low
  have distance : ((cell : Int) - address).toNat = cell - address := by omega
  simp only [byteAt_load loaded, laid?, Int.ofNat_le, distance]
  by_cases reached : address ≤ cell
  · rw [if_pos reached, List.getD_eq_getElem?_getD]
    by_cases short : cell < address + block.length
    · rw [if_pos ⟨reached, short⟩, List.getElem?_eq_getElem (by omega)]
      rfl
    · rw [if_neg fun both => short both.2, List.getElem?_eq_none (by omega)]
      rfl
  · rw [if_neg fun both => reached both.1, if_neg reached]
    rfl

theorem byteAt_write {address value : Int} (written : memory.write address value = .ok after) :
    after.byteAt cell =
      (if address = cell then some (Bits.lowByte value) else none).getD (memory.byteAt cell) := by
  obtain ⟨⟨low, high⟩, rfl⟩ := write_eq_ok_iff.1 written
  obtain ⟨address, rfl⟩ := Int.eq_ofNat_of_zero_le low
  have inside : address < memory.bytes.size := Int.ofNat_lt.1 high
  simp only [byteAt, Array.getD_eq_getD_getElem?, Array.getElem?_setIfInBounds, Int.toNat_natCast,
    Int.ofNat_inj]
  by_cases same : address = cell
  · rw [if_pos same, if_pos inside, if_pos same]
    rfl
  · rw [if_neg same, if_neg same]
    rfl

theorem byteAt_restore {data : List Int} {offset : Int}
    (restored : memory.restore data offset = .ok after) (inside : cell < memory.size) :
    (Slice.window data offset (offset + memory.size))[cell]?.map Bits.lowByte =
      some (after.byteAt cell) := by
  obtain ⟨⟨whole, -⟩, rfl⟩ := restore_eq_ok_iff.1 restored
  rw [← whole] at inside
  rw [byteAt, Array.getD_eq_getD_getElem?, List.getElem?_toArray, List.getElem?_map,
    List.getElem?_eq_getElem inside]
  rfl

/-- A change that is made gives the cells it covers their values and leaves the others. -/
theorem byteAt_change (changed : memory.change change = .ok after) (inside : cell < memory.size) :
    after.byteAt cell = (change.given? memory.size cell).getD (memory.byteAt cell) := by
  cases change with
  | write address value => exact byteAt_write changed
  | load address block => exact byteAt_load_laid changed
  | writeSlice start stop step block =>
      obtain ⟨-, -, loaded⟩ := writeSlice_eq_ok_iff.1 changed
      exact byteAt_load_laid loaded
  | clear =>
      cases changed
      exact byteAt_zeroed memory.size cell
  | restore data offset =>
      rw [Change.given?, byteAt_restore changed inside]
      rfl

theorem settle_of_not_fits (refused : ¬ change.Fits memory.size) :
    Outcome.settle memory (memory.change change) = memory := by
  cases changed : memory.change change with
  | ok after => exact absurd (change_ok_iff.1 ⟨after, changed⟩) refused
  | error fault => rfl

theorem byteAt_settle (inside : cell < memory.size) :
    (Outcome.settle memory (memory.change change)).byteAt cell =
      (change.makes? memory.size cell).getD (memory.byteAt cell) := by
  rw [Change.makes?]
  by_cases fits : change.Fits memory.size
  · obtain ⟨after, changed⟩ := change_ok_iff.2 fits
    rw [if_pos fits, changed]
    exact byteAt_change changed inside
  · rw [if_neg fits, settle_of_not_fits fits]
    rfl

theorem size_settle (memory : Memory) (change : Change) :
    (Outcome.settle memory (memory.change change)).size = memory.size :=
  Outcome.settle_of (P := fun left => left.size = memory.size) rfl fun _ changed =>
    size_change changed

theorem changes_concat (series : List Change) :
    memory.changes (series ++ [change]) =
      Outcome.settle (memory.changes series) ((memory.changes series).change change) := by
  rw [changes, List.foldl_append]
  rfl

theorem size_changes (memory : Memory) (series : List Change) :
    (memory.changes series).size = memory.size := by
  induction series generalizing memory with
  | nil => rfl
  | cons change rest induction => exact (induction _).trans (memory.size_settle change)

/-- As the size stays, what a change makes of a cell does not depend on those before it. -/
theorem byteAt_changes (series : List Change) (inside : cell < memory.size) :
    (memory.changes series).byteAt cell =
      (latest? (Change.makes? memory.size cell) series).getD (memory.byteAt cell) := by
  have kept : ∀ (left : Memory) (change : Change), left.size = memory.size →
      (Outcome.settle left (left.change change)).size = memory.size := by
    intro left change same
    rw [size_settle, same]
  refine foldl_latest (fun left : Memory => left.size = memory.size)
    (fun left : Memory => left.byteAt cell) kept ?_ series rfl
  intro left change same
  rw [← same] at inside ⊢
  exact byteAt_settle inside

theorem read_cell (inside : cell < memory.size) : memory.read cell = .ok (memory.byteAt cell) := by
  have covered := (memory.covers_eq_ok_iff cell 1).2 (by omega)
  rw [read, covered]
  rfl

/-- A snapshot of bytes is taken over if there are enough of them from its offset on. -/
theorem restore_numbers_fits_iff (data : List UInt8) (offset : Nat) :
    (Change.restore (numbers data) offset).Fits size ↔ ¬ data.length - offset < size := by
  have range : ∀ value ∈ ((numbers data).drop offset).take size, 0 ≤ value ∧ value < 256 := by
    intro value member
    exact byte_of_mem_numbers (List.mem_of_mem_drop (List.mem_of_mem_take member))
  simp only [Change.Fits, Slice.window_natCast, List.length_take, List.length_drop, length_numbers]
  constructor
  · rintro ⟨whole, -⟩
    omega
  · intro enough
    exact ⟨by omega, range⟩

theorem restore_numbers_given? (data : List UInt8) (offset : Nat) (inside : cell < size) :
    (Change.restore (numbers data) offset).given? size cell = data[offset + cell]? := by
  rw [Change.given?, Slice.window_natCast, List.getElem?_take_of_lt inside, List.getElem?_drop,
    numbers, List.getElem?_map, Option.map_map]
  cases data[offset + cell]? with
  | none => rfl
  | some byte => exact congrArg some (Bits.lowByte_toNat byte)

/-- After any series of changes a cell holds the byte it was last given, or zero.  A change that does
not fit into memory fails and leaves no trace. -/
theorem cells_hold_last_given (size : Nat) (series : List Change) :
    ((zeroed size).changes series).size = size ∧
      (∀ cell : Nat, cell < size → ((zeroed size).changes series).read cell =
        .ok ((latest? (Change.makes? size cell) series).getD 0)) ∧
      (∀ change : Change, (∃ after, ((zeroed size).changes series).change change = .ok after) ↔
        change.Fits size) ∧
      (∀ change : Change, ¬ change.Fits size →
        (zeroed size).changes (series ++ [change]) = (zeroed size).changes series) ∧
      ∀ (data : List UInt8) (offset : Nat),
        ((Change.restore (numbers data) offset).Fits size ↔ ¬ data.length - offset < size) ∧
          ∀ cell < size,
            (Change.restore (numbers data) offset).given? size cell = data[offset + cell]? := by
  have whole : ((zeroed size).changes series).size = size := by
    rw [size_changes, size_zeroed]
  refine ⟨whole, ?_, ?_, ?_, ?_⟩
  · intro cell inside
    have zero : cell < (zeroed size).size := by rwa [size_zeroed]
    rw [read_cell (by rwa [whole]), byteAt_changes series zero, size_zeroed, byteAt_zeroed]
  · intro change
    rw [change_ok_iff, whole]
  · intro change refused
    rw [changes_concat]
    apply settle_of_not_fits
    rwa [whole]
  · intro data offset
    exact ⟨restore_numbers_fits_iff data offset, fun cell => restore_numbers_given? data offset⟩

/-- The last three changes of this series are refused: a slice that would grow memory, a write one
past its end and a snapshot that is too short. -/
theorem refused_changes_give_nothing :
    let series : List Change :=
      [.load 1 [1, 2, 3], .write 1 0x1FF, .writeSlice (some 2) (some 3) none [4, 5], .write 4 6,
        .restore [7, 7] 0]
    (1 < 4 ∧ ((zeroed 4).changes series).read 1 = .ok 0xFF) ∧
      (2 < 4 ∧ ((zeroed 4).changes series).read 2 = .ok 2) ∧
      ¬ (Change.write 4 6).Fits 4 ∧
      (zeroed 4).changes (series ++ [.write 4 6]) = (zeroed 4).changes series := by
  intro series
  obtain ⟨-, cells, -, refused, -⟩ := cells_hold_last_given 4 series
  have beyond : ¬ (Change.write 4 6).Fits 4 := by decide
  exact ⟨⟨by decide, cells 1 (by decide)⟩, ⟨by decide, cells 2 (by decide)⟩, beyond,
    refused _ beyond⟩

end Memory

end ChipEight
