import ChipEight.Proofs.MemoryHistory
import ChipEight.Proofs.Representation

namespace ChipEight

/-! A snapshot made of any numbers.

Registers and memory are refused unless they are bytes.  All else is taken over as it stands: the
scalars, the depth of the stack, its entries, the picture.  So a machine can be restored from
numbers that are no bytes, and what it has then need not be in range.
-/

namespace Slice

variable {α : Type} {values : List α} {value : α} {start : Int} {size : Nat}

/-- A window on one side of the end that its positions are counted from is whole. -/
theorem length_window_inside (room : start + size ≤ values.length)
    (oneSided : 0 ≤ start ∨ -(values.length : Int) ≤ start ∧ start + size < 0) :
    (window values start (start + size)).length = size := by
  rw [length_window]
  simp only [cut]
  omega

theorem mem_window_iff (room : start + size ≤ values.length)
    (oneSided : 0 ≤ start ∨ -(values.length : Int) ≤ start ∧ start + size < 0) :
    value ∈ window values start (start + size) ↔
      ∃ position, element values position = .ok value ∧
        start ≤ position ∧ position < start + size := by
  have length := length_window_inside room oneSided
  obtain ⟨first, begins⟩ : ∃ first, cut values.length start = first := ⟨_, rfl⟩
  have shown (place : Nat) (inside : place < size) :
      (window values start (start + size))[place]? = values[first + place]? := by
    rw [length_window] at length
    rw [window, length, begins, List.getElem?_take_of_lt inside, List.getElem?_drop]
  -- The window is counted from one end as a whole.
  have counted (place : Nat) (inside : place < size) :
      ((first + place : Nat) : Int) =
        if start + place < 0 then start + place + values.length else start + place := by
    simp only [cut] at begins
    split <;> omega
  rw [List.mem_iff_getElem?]
  constructor
  · rintro ⟨place, found⟩
    have inside : place < size := length ▸ (List.getElem?_eq_some_iff.1 found).1
    refine ⟨start + place, element_eq_ok_iff.2 ⟨_, counted place inside, ?_⟩, by omega, by omega⟩
    rw [← shown place inside, found]
  · rintro ⟨position, found, low, high⟩
    obtain ⟨place, rfl⟩ := Int.le.dest low
    have inside : place < size := by omega
    obtain ⟨index, same, there⟩ := element_eq_ok_iff.1 found
    rw [← counted place inside, Int.natCast_inj] at same
    exact ⟨place, by rw [shown place inside, ← same, there]⟩

end Slice

namespace Machine

variable {machine : Machine} {data : List Int} {offset place count : Nat}
  {depth high low value : Int} {header : Header} {entries : List Int} {fault : Fault}

/-- The two numbers from a place on make up a word. -/
def HoldsWord (data : List Int) (place : Nat) : Prop :=
  ∃ high low, data[place]? = some high ∧ data[place + 1]? = some low ∧ IsByte high ∧ IsWord low

theorem pairAt_eq_ok_iff :
    pairAt data place = .ok value ↔
      ∃ high low, data[place]? = some high ∧ data[place + 1]? = some low ∧
        value = paired high low := by
  have next : (place : Int) + 1 = (place + 1 : Nat) := rfl
  simp only [pairAt, next, bind_eq_ok_iff, Slice.element_natCast_iff, pure_eq_ok, Except.ok.injEq]
  constructor
  · rintro ⟨high, first, low, second, rfl⟩
    exact ⟨high, low, first, second, rfl⟩
  · rintro ⟨high, low, first, second, rfl⟩
    exact ⟨high, first, low, second, rfl⟩

theorem exists_pairAt (inside : place + 1 < data.length) : ∃ value, pairAt data place = .ok value :=
  ⟨_, pairAt_eq_ok_iff.2 ⟨_, _, List.getElem?_eq_getElem (by omega),
    List.getElem?_eq_getElem inside, rfl⟩⟩

theorem isWord_pairAt_iff (read : pairAt data place = .ok value) :
    IsWord value ↔ HoldsWord data place := by
  obtain ⟨high, low, first, second, rfl⟩ := pairAt_eq_ok_iff.1 read
  simp only [isWord_paired, HoldsWord, first, second, Option.some.injEq]
  constructor
  · exact fun range => ⟨high, low, rfl, rfl, range⟩
  · rintro ⟨_, _, rfl, rfl, range⟩
    exact range

theorem exists_pairsAt (inside : place + 2 * count ≤ data.length) :
    ∃ entries, pairsAt data place count = .ok entries := by
  induction count generalizing place with
  | zero => exact ⟨[], rfl⟩
  | succ count induction =>
      obtain ⟨first, begun⟩ := exists_pairAt (by omega : place + 1 < data.length)
      obtain ⟨rest, later⟩ := induction (by omega : place + 2 + 2 * count ≤ data.length)
      have later : pairsAt data ((place : Int) + 2) count = .ok rest := later
      exact ⟨first :: rest, by simp only [pairsAt, begun, later, ok_bind, pure_eq_ok]⟩

theorem length_pairsAt {position : Int} (read : pairsAt data position count = .ok entries) :
    entries.length = count := by
  induction count generalizing position entries with
  | zero =>
      cases read
      rfl
  | succ count induction =>
      simp only [pairsAt, bind_eq_ok_iff] at read
      obtain ⟨first, -, rest, later, result⟩ := read
      cases result
      rw [List.length_cons, induction later]

theorem isWord_pairsAt_iff (read : pairsAt data place count = .ok entries) :
    (∀ entry ∈ entries, IsWord entry) ↔ ∀ number < count, HoldsWord data (place + 2 * number) := by
  induction count generalizing place entries with
  | zero =>
      cases read
      simp
  | succ count induction =>
      simp only [pairsAt, bind_eq_ok_iff] at read
      obtain ⟨first, begun, rest, later, result⟩ := read
      have next : pairsAt data (place + 2 : Nat) count = .ok rest := later
      cases result
      rw [List.forall_mem_cons, isWord_pairAt_iff begun, induction next]
      constructor
      · rintro ⟨here, there⟩ number inside
        cases number with
        | zero => exact here
        | succ number =>
            rw [Nat.mul_succ, Nat.add_comm (2 * number), ← Nat.add_assoc]
            exact there number (by omega)
      · intro all
        refine ⟨all 0 (by omega), fun number inside => ?_⟩
        rw [Nat.add_assoc, Nat.add_comm 2, ← Nat.mul_succ]
        exact all (number + 1) (by omega)

/-- Where memory starts, behind a header with a stack of this depth. -/
def blocksAt (offset : Nat) (depth : Int) : Int := offset + 25 + 2 * depth

/-- The numbers that have to be bytes: those of the registers and of memory. -/
def Checked (data : List Int) (offset : Nat) (depth value : Int) : Prop :=
  ∃ position, Slice.element data position = .ok value ∧
    ((offset + 8 ≤ position ∧ position < offset + 8 + registerCount) ∨
      (blocksAt offset depth ≤ position ∧ position < blocksAt offset depth + 0x1000))

/-- The other numbers that are read: the scalars, the depth, the entries of the stack and the
picture. -/
def Unchecked (data : List Int) (offset : Nat) (depth value : Int) : Prop :=
  ∃ position, Slice.element data position = .ok value ∧
    ((offset ≤ position ∧ position < offset + 8) ∨ position = offset + 24 ∨
      (offset + 25 ≤ position ∧ position < blocksAt offset depth) ∨
      (blocksAt offset depth + 0x1000 ≤ position ∧ position < blocksAt offset depth + 0x1100))

/-- What a restore makes sure of.  Memory may lie before the data, its positions counted from their
end, if the depth is negative. -/
structure Restorable (data : List Int) (offset : Nat) (depth : Int) : Prop where
  found : data[offset + 24]? = some depth
  room : blocksAt offset depth + 0x1100 ≤ data.length
  oneSided : 0 ≤ blocksAt offset depth ∨
    -(data.length : Int) ≤ blocksAt offset depth ∧ blocksAt offset depth + 0x1000 < 0
  bytes : ∀ value, Checked data offset depth value → IsByte value

/-- What a restore does not make sure of: that the machine has values in range afterwards. -/
structure Fits (data : List Int) (offset : Nat) (depth : Int) : Prop where
  counted : 0 ≤ depth
  pc : HoldsWord data offset
  index : HoldsWord data (offset + 2)
  delay : ∀ value ∈ data[offset + 6]?, IsByte value
  sound : ∀ value ∈ data[offset + 7]?, IsByte value
  entries : ∀ number < depth.toNat, HoldsWord data (offset + 25 + 2 * number)

theorem Header.read_short (missing : data[offset + 24]? = none) :
    Header.read data offset = .error (.truncated .header) := by
  have ended := List.getElem?_eq_none_iff.1 missing
  have short : (data.length : Int) - offset < headerSize := by
    simp only [headerSize, registerCount]
    omega
  rw [Header.read, if_pos short]
  rfl

/-- Where there is a depth, only the registers and the length of the stack are left to fail. -/
theorem Header.read_long (found : data[offset + 24]? = some depth) :
    ∃ pc index opcode delay sound : Int,
      pairAt data offset = .ok pc ∧ pairAt data (offset + 2 : Nat) = .ok index ∧
        data[offset + 6]? = some delay ∧ data[offset + 7]? = some sound ∧
        Header.read data offset = do
          let registers ← bytesOf (Slice.window data (offset + 8) (offset + 8 + registerCount))
          if (data.length : Int) - (offset + 25) < depth * 2 then throw (.truncated .stack)
          let entries ← pairsAt data (offset + 25 : Nat) depth.toNat
          return { pc, index, opcode, delay, sound, registers, depth, entries } := by
  have long := (List.getElem?_eq_some_iff.1 found).1
  obtain ⟨pc, atPc⟩ := exists_pairAt (by omega : offset + 1 < data.length)
  obtain ⟨index, atIndex⟩ := exists_pairAt (by omega : offset + 2 + 1 < data.length)
  obtain ⟨opcode, atOpcode⟩ := exists_pairAt (by omega : offset + 4 + 1 < data.length)
  have atDelay := List.getElem?_eq_getElem (by omega : offset + 6 < data.length)
  have atSound := List.getElem?_eq_getElem (by omega : offset + 7 < data.length)
  refine ⟨pc, index, opcode, _, _, atPc, atIndex, atDelay, atSound, ?_⟩
  have enough : ¬ (data.length : Int) - offset < headerSize := by
    simp only [headerSize, registerCount]
    omega
  have second : pairAt data ((offset : Int) + 2) = .ok index := atIndex
  have third : pairAt data ((offset : Int) + 4) = .ok opcode := atOpcode
  have delay : Slice.element data ((offset : Int) + 6) = .ok _ :=
    Slice.element_natCast_iff.2 atDelay
  have sound : Slice.element data ((offset : Int) + 7) = .ok _ :=
    Slice.element_natCast_iff.2 atSound
  have count : Slice.element data ((offset : Int) + 8 + registerCount) = .ok depth :=
    Slice.element_natCast_iff.2 found
  simp only [Header.read, if_neg enough, atPc, second, third, delay, sound, count, ok_bind]
  rfl

theorem bytesOf_error {values : List Int} (failed : bytesOf values = .error fault) :
    fault.kind = .value := by
  unfold bytesOf at failed
  split at failed
  · cases failed
  · cases failed
    rfl

theorem memory_restore_error {memory : Memory} {position : Int}
    (failed : memory.restore data position = .error fault) : fault.kind = .value := by
  simp only [Memory.restore, bind_eq_error_iff] at failed
  rcases failed with refused | ⟨block, -, short⟩
  · exact bytesOf_error refused
  · split at short
    · cases short
      rfl
    · cases short

theorem exists_entries (found : data[offset + 24]? = some depth)
    (room : depth * 2 ≤ (data.length : Int) - (offset + 25)) :
    ∃ entries, pairsAt data (offset + 25 : Nat) depth.toNat = .ok entries := by
  have long := (List.getElem?_eq_some_iff.1 found).1
  exact exists_pairsAt (by omega)

theorem Header.read_error (failed : Header.read data offset = .error fault) :
    fault.kind = .value := by
  cases found : data[offset + 24]? with
  | none =>
      cases (Header.read_short found).symm.trans failed
      rfl
  | some depth =>
      obtain ⟨pc, index, opcode, delay, sound, -, -, -, -, read⟩ := Header.read_long found
      simp only [read, bind_eq_error_iff] at failed
      rcases failed with refused | ⟨registers, -, rest⟩
      · exact bytesOf_error refused
      · by_cases short : (data.length : Int) - (offset + 25) < depth * 2
        · rw [if_pos short] at rest
          cases rest
          rfl
        · obtain ⟨entries, stacked⟩ :=
            exists_entries found (Int.not_lt.1 short)
          simp only [if_neg short, stacked] at rest
          cases rest

/-- What a header is read from. -/
structure Header.ReadFrom (header : Header) (data : List Int) (offset : Nat) : Prop where
  pc : pairAt data offset = .ok header.pc
  index : pairAt data (offset + 2 : Nat) = .ok header.index
  delay : data[offset + 6]? = some header.delay
  sound : data[offset + 7]? = some header.sound
  registers :
    bytesOf (Slice.window data (offset + 8) (offset + 8 + registerCount)) = .ok header.registers
  depth : data[offset + 24]? = some header.depth
  entries : pairsAt data (offset + 25 : Nat) header.depth.toNat = .ok header.entries

theorem Header.read_eq_ok (read : Header.read data offset = .ok header) :
    header.ReadFrom data offset := by
  cases found : data[offset + 24]? with
  | none => cases (Header.read_short found).symm.trans read
  | some depth =>
      obtain ⟨pc, index, opcode, delay, sound, atPc, atIndex, atDelay, atSound, whole⟩ :=
        Header.read_long found
      simp only [whole, bind_eq_ok_iff] at read
      obtain ⟨registers, bytes, rest⟩ := read
      split at rest
      · cases rest
      simp only [bind_eq_ok_iff] at rest
      obtain ⟨entries, stacked, result⟩ := rest
      cases result
      exact
        { pc := atPc
          index := atIndex
          delay := atDelay
          sound := atSound
          registers := bytes
          depth := found
          entries := stacked }

theorem registers_inside (found : data[offset + 24]? = some depth) :
    (offset : Int) + 8 + registerCount ≤ data.length := by
  have long := (List.getElem?_eq_some_iff.1 found).1
  simp only [registerCount]
  omega

theorem Header.ReadFrom.length_registers (taken : header.ReadFrom data offset) :
    header.registers.length = registerCount := by
  rw [length_bytesOf taken.registers]
  exact Slice.length_window_inside (registers_inside taken.depth) (.inl (by omega))

/-- The values of a header are in range exactly when the numbers it is read from fit. -/
theorem Header.ReadFrom.fits_iff (taken : header.ReadFrom data offset) :
    Fits data offset header.depth ↔
      0 ≤ header.depth ∧ IsWord header.pc ∧ IsWord header.index ∧ IsByte header.delay ∧
        IsByte header.sound ∧ ∀ entry ∈ header.entries, IsWord entry := by
  rw [isWord_pairAt_iff taken.pc, isWord_pairAt_iff taken.index,
    isWord_pairsAt_iff taken.entries]
  constructor
  · rintro ⟨counted, pc, index, delay, sound, entries⟩
    exact ⟨counted, pc, index, delay _ taken.delay, sound _ taken.sound, entries⟩
  · rintro ⟨counted, pc, index, delay, sound, entries⟩
    refine ⟨counted, pc, index, ?_, ?_, entries⟩
    · intro value found
      cases taken.delay.symm.trans found
      exact delay
    · intro value found
      cases taken.sound.symm.trans found
      exact sound

theorem Header.blocks_eq (header : Header) :
    (offset : Int) + header.size = blocksAt offset header.depth := by
  change (offset : Int) + (25 + header.depth * 2) = offset + 25 + 2 * header.depth
  omega

/-- All checks come down to the bytes of two windows. -/
theorem checked_iff (found : data[offset + 24]? = some depth)
    (room : blocksAt offset depth + (0x1000 : Nat) ≤ data.length)
    (oneSided : 0 ≤ blocksAt offset depth ∨
      -(data.length : Int) ≤ blocksAt offset depth ∧
        blocksAt offset depth + (0x1000 : Nat) < 0) :
    (∀ value, Checked data offset depth value → IsByte value) ↔
      (∀ value ∈ Slice.window data (offset + 8) (offset + 8 + registerCount), IsByte value) ∧
        ∀ value ∈ Slice.window data (blocksAt offset depth)
          (blocksAt offset depth + (0x1000 : Nat)), IsByte value := by
  have registers (value : Int) : value ∈ Slice.window _ _ _ ↔ _ :=
    Slice.mem_window_iff (registers_inside found) (.inl (by omega))
  have memory (value : Int) : value ∈ Slice.window _ _ _ ↔ _ := Slice.mem_window_iff room oneSided
  simp only [registers, memory, Checked]
  constructor
  · intro all
    constructor
    · rintro value ⟨position, there, range⟩
      exact all value ⟨position, there, .inl range⟩
    · rintro value ⟨position, there, range⟩
      exact all value ⟨position, there, .inr range⟩
  · rintro ⟨first, second⟩ value ⟨position, there, range | range⟩
    · exact first value ⟨position, there, range⟩
    · exact second value ⟨position, there, range⟩

theorem Sized.restorable (sized : machine.Sized) {memory : Memory}
    (read : Header.read data offset = .ok header)
    (room : 0x1100 ≤ (data.length : Int) - (offset + header.size))
    (written : machine.memory.restore data (offset + header.size) = .ok memory) :
    Restorable data offset header.depth := by
  have size : machine.memory.size = 0x1000 := sized.memory
  have taken := Header.read_eq_ok read
  obtain ⟨⟨whole, bytes⟩, -⟩ := Memory.restore_eq_ok_iff.1 written
  rw [header.blocks_eq, size] at whole bytes
  rw [header.blocks_eq] at room
  obtain ⟨low, inside, oneSided⟩ := Slice.whole_window (by decide) whole
  have side : 0 ≤ blocksAt offset header.depth ∨
      -(data.length : Int) ≤ blocksAt offset header.depth ∧
        blocksAt offset header.depth + (0x1000 : Nat) < 0 := by omega
  have registers := (bytesOf_eq_ok_iff.1 taken.registers).1
  exact
    { found := taken.depth
      room := by omega
      oneSided := side
      bytes := (checked_iff taken.depth inside side).2 ⟨registers, bytes⟩ }

/-- What has been checked is enough to read it all. -/
theorem Sized.restore_restorable (sized : machine.Sized)
    (restorable : Restorable data offset depth) :
    ∃ header memory screen, header.ReadFrom data offset ∧ header.depth = depth ∧
      machine.restore data offset =
        .ok (25 + 2 * depth + 0x1100) ({ machine with memory, screen }.withHeader header) := by
  have size : machine.memory.size = 0x1000 := sized.memory
  obtain ⟨found, room, oneSided, bytes⟩ := restorable
  have inside : blocksAt offset depth + (0x1000 : Nat) ≤ data.length := by omega
  obtain ⟨registers, block⟩ := (checked_iff found inside oneSided).1 bytes
  obtain ⟨pc, index, opcode, delay, sound, -, -, -, -, read⟩ := Header.read_long found
  have stack : depth * 2 ≤ (data.length : Int) - (offset + 25) := by
    simp only [blocksAt] at room
    omega
  obtain ⟨entries, stacked⟩ := exists_entries found stack
  have fits : (Memory.Change.restore data (blocksAt offset depth)).Fits machine.memory.size := by
    rw [size]
    exact ⟨Slice.length_window_inside inside oneSided, block⟩
  obtain ⟨memory, written⟩ : ∃ memory, machine.memory.restore data (blocksAt offset depth) =
      .ok memory := ⟨_, Memory.restore_eq_ok_iff.2 ⟨fits, rfl⟩⟩
  simp only [bytesOf_eq_ok_iff.2 ⟨registers, rfl⟩, ok_bind, if_neg (Int.not_lt.2 stack),
    stacked] at read
  obtain ⟨header, same⟩ : ∃ header, Header.read data offset = .ok header := ⟨_, read⟩
  have taken := Header.read_eq_ok same
  have depthRead : header.depth = depth := Option.some.inj (taken.depth.symm.trans found)
  have blocks : (offset : Int) + header.size = blocksAt offset depth :=
    depthRead ▸ header.blocks_eq
  rw [← blocks] at written room
  obtain ⟨screen, -, completed⟩ := sized.restore_ok same (by omega) written
  have total : header.size + 0x1100 = 25 + 2 * depth + 0x1100 := by
    simp only [blocksAt] at blocks
    omega
  exact ⟨header, memory, screen, taken, depthRead, total ▸ completed⟩

theorem Sized.restore_unrestorable (sized : machine.Sized)
    (refused : ¬ ∃ depth, Restorable data offset depth) :
    ∃ fault, machine.restore data offset = .error fault machine ∧ fault.kind = .value := by
  cases read : Header.read data offset with
  | error fault =>
      refine ⟨fault, ?_, Header.read_error read⟩
      simp only [restore, read]
  | ok header =>
      by_cases short : (data.length : Int) - (offset + header.size) < 0x1100
      · refine ⟨.truncated .blocks, ?_, rfl⟩
        simp only [restore, read, sized.blocks, if_pos short]
      · have room := Int.not_lt.1 short
        cases written : machine.memory.restore data (offset + header.size) with
        | error fault =>
            exact ⟨fault, sized.restore_unwritten read room written, memory_restore_error written⟩
        | ok memory => exact absurd ⟨_, sized.restorable read room written⟩ refused

/-- How a machine should be that was restored with this depth. -/
structure InOrder (machine : Machine) (depth : Int) : Prop where
  formed : machine.WellFormed
  entries : ∀ entry ∈ machine.stack, IsWord entry
  counted : (machine.depth : Int) = depth

theorem Header.ReadFrom.inOrder_iff (taken : header.ReadFrom data offset)
    (sized : (machine.withHeader header).Sized) :
    (machine.withHeader header).InOrder header.depth ↔ Fits data offset header.depth := by
  have depth : (machine.withHeader header).depth = header.depth.toNat :=
    List.length_reverse.trans (length_pairsAt taken.entries)
  rw [taken.fits_iff]
  constructor
  · rintro ⟨formed, entries, counted⟩
    refine ⟨by omega, formed.pc, formed.index, formed.delay, formed.sound, ?_⟩
    exact fun entry member => entries entry (List.mem_reverse.2 member)
  · rintro ⟨counted, pc, index, delay, sound, entries⟩
    refine ⟨?_, fun entry member => entries entry (List.mem_reverse.1 member), by omega⟩
    exact
      { pc := pc
        index := index
        delay := delay
        sound := sound
        registers := taken.length_registers
        memory := sized.memory
        width := sized.screen.width
        height := sized.screen.height
        rows := sized.screen.rows
        columns := sized.screen.columns }

theorem Sized.restore_inOrder_iff (sized : machine.Sized)
    (restorable : Restorable data offset depth) :
    ∃ after, machine.restore data offset = .ok (25 + 2 * depth + 0x1100) after ∧
      (after.InOrder depth ↔ Fits data offset depth) := by
  obtain ⟨header, memory, screen, taken, rfl, restored⟩ := sized.restore_restorable restorable
  have kept := sized.restore_state data offset
  rw [restored] at kept
  exact ⟨_, restored, taken.inOrder_iff kept⟩

theorem holdsWord_of_bytes (inside : place + 1 < data.length)
    (bytes : ∀ index value, (index = place ∨ index = place + 1) → data[index]? = some value →
      IsByte value) : HoldsWord data place := by
  have first := List.getElem?_eq_getElem (by omega : place < data.length)
  have second := List.getElem?_eq_getElem inside
  have low := bytes _ _ (.inr rfl) second
  refine ⟨_, _, first, second, bytes _ _ (.inl rfl) first, low.1, ?_⟩
  have small := low.2
  omega

theorem Restorable.fits (restorable : Restorable data offset depth)
    (bytes : ∀ value, Unchecked data offset depth value → IsByte value) :
    Fits data offset depth := by
  obtain ⟨found, room, -, -⟩ := restorable
  have long := (List.getElem?_eq_some_iff.1 found).1
  have positive : 0 ≤ depth :=
    (bytes depth ⟨_, Slice.element_natCast_iff.2 found, .inr (.inl rfl)⟩).1
  have scalar (index : Nat) (value : Int) (inside : offset ≤ index ∧ index < offset + 8)
      (there : data[index]? = some value) : IsByte value :=
    bytes value ⟨index, Slice.element_natCast_iff.2 there, .inl (by omega)⟩
  have frame (index : Nat) (value : Int)
      (inside : offset + 25 ≤ index ∧ index < offset + 25 + 2 * depth.toNat)
      (there : data[index]? = some value) : IsByte value := by
    refine bytes value ⟨index, Slice.element_natCast_iff.2 there, .inr (.inr (.inl ?_))⟩
    simp only [blocksAt]
    omega
  simp only [blocksAt] at room
  exact
    { counted := positive
      pc := holdsWord_of_bytes (by omega) fun index value here => scalar index value (by omega)
      index := holdsWord_of_bytes (by omega) fun index value here => scalar index value (by omega)
      delay := fun value => scalar _ value (by omega)
      sound := fun value => scalar _ value (by omega)
      entries := fun number inside =>
        holdsWord_of_bytes (by omega) fun index value here => frame index value (by omega) }

/-- That a restore either refuses its data or gives a machine in order, and refuses any numbers that
are no bytes. -/
structure Guarded (machine : Machine) (data : List Int) (offset : Nat) : Prop where
  restored : ∀ count after, machine.restore data offset = .ok count after →
    ∃ depth, data[offset + 24]? = some depth ∧ after.InOrder depth ∧ count = 25 + 2 * depth + 0x1100
  refused : ∀ depth, data[offset + 24]? = some depth →
    ∀ value, Checked data offset depth value ∨ Unchecked data offset depth value →
      ¬ IsByte value →
      ∃ fault left, machine.restore data offset = .error fault left ∧ fault.kind = .value

/-- Data that pass all checks with a number that is no byte. -/
def Lenient (data : List Int) (offset : Nat) : Prop :=
  ∃ depth, Restorable data offset depth ∧
    ∃ value, Unchecked data offset depth value ∧ ¬ IsByte value

theorem Sized.guarded_iff (sized : machine.Sized) :
    machine.Guarded data offset ↔ ¬ Lenient data offset := by
  constructor
  · rintro guarded ⟨depth, restorable, value, unchecked, strange⟩
    obtain ⟨after, restored, -⟩ := sized.restore_inOrder_iff restorable
    obtain ⟨fault, left, failed, -⟩ :=
      guarded.refused depth restorable.found value (.inr unchecked) strange
    cases restored.symm.trans failed
  · intro strict
    by_cases restorable : ∃ depth, Restorable data offset depth
    · obtain ⟨depth, restorable⟩ := restorable
      have bytes (value : Int) (unchecked : Unchecked data offset depth value) : IsByte value :=
        Classical.byContradiction fun strange =>
          strict ⟨depth, restorable, value, unchecked, strange⟩
      obtain ⟨after, restored, inOrder⟩ := sized.restore_inOrder_iff restorable
      constructor
      · intro count other result
        cases restored.symm.trans result
        exact ⟨depth, restorable.found, inOrder.2 (restorable.fits bytes), rfl⟩
      · intro other found value read strange
        cases restorable.found.symm.trans found
        exact absurd (read.elim (restorable.bytes value) (bytes value)) strange
    · obtain ⟨fault, failed, kind⟩ := sized.restore_unrestorable restorable
      constructor
      · intro count after restored
        cases failed.symm.trans restored
      · intro depth found value read strange
        exact ⟨fault, machine, failed, kind⟩

/-- A machine in order comes of every restore exactly where data that pass the checks are bytes
throughout. -/
theorem restore_of_any_numbers (sized : machine.Sized) (data : List Int) (offset : Nat) :
    (machine.Guarded data offset ↔ ¬ Lenient data offset) ∧
      (∀ depth, Restorable data offset depth →
        ∃ after, machine.restore data offset = .ok (25 + 2 * depth + 0x1100) after ∧
          (after.InOrder depth ↔ Fits data offset depth)) ∧
      ((¬ ∃ depth, Restorable data offset depth) →
        ∃ fault, machine.restore data offset = .error fault machine ∧ fault.kind = .value) := by
  refine ⟨sized.guarded_iff, ?_, sized.restore_unrestorable⟩
  intro depth restorable
  exact sized.restore_inOrder_iff restorable

/-- A number and as many zeros as a snapshot without a stack has behind it. -/
def zerosAfter (first : Int) : List Int := first :: List.replicate 4376 0

theorem zerosAfter_restorable (first : Int) : Restorable (zerosAfter first) 0 0 where
  found := by
    change (first :: List.replicate 4376 (0 : Int))[23 + 1]? = some 0
    rw [List.getElem?_cons_succ, List.getElem?_replicate_of_lt (by decide)]
  room := by
    simp only [zerosAfter, List.length_cons, List.length_replicate, blocksAt]
    omega
  oneSided := by
    left
    simp only [blocksAt]
    omega
  bytes := by
    rintro value ⟨position, found, range⟩
    have behind : 0 < position := by
      change 0 + 8 ≤ position ∧ _ ∨ 25 ≤ position ∧ _ at range
      omega
    obtain ⟨place, rfl⟩ := Int.eq_succ_of_zero_lt behind
    have zero := Slice.element_natCast_iff.1 found
    rw [zerosAfter, List.getElem?_cons_succ] at zero
    rw [List.eq_of_mem_replicate (List.mem_of_getElem? zero), IsByte]
    decide

/-- With 256 for the high number of the program counter it is one beyond all words. -/
theorem restore_not_guarded :
    initial.WellFormed ∧ (∀ entry ∈ initial.stack, IsWord entry) ∧
      (∃ after, initial.restore (zerosAfter 0x100) 0 = .ok 4377 after ∧ after.pc = 0x10000) ∧
      ¬ initial.Guarded (zerosAfter 0x100) 0 := by
  have sized : initial.Sized := initial_wellFormed.sized
  have restorable := zerosAfter_restorable 0x100
  obtain ⟨header, memory, screen, taken, -, restored⟩ := sized.restore_restorable restorable
  have pc : pairAt (zerosAfter 0x100) 0 = .ok 0x10000 := rfl
  have read : header.pc = 0x10000 := Except.ok.inj (taken.pc.symm.trans pc)
  refine ⟨initial_wellFormed, initial_ranged.entries, ⟨_, restored, read⟩, fun guarded => ?_⟩
  have unchecked : Unchecked (zerosAfter 0x100) 0 0 0x100 := ⟨0, rfl, .inl (by decide)⟩
  exact sized.guarded_iff.1 guarded
    ⟨0, restorable, _, unchecked, fun byte => absurd byte.2 (by decide)⟩

/-- Zeros are restored in order.  A first number that is no byte is not refused, and no numbers at
all are. -/
theorem restore_of_zeros :
    initial.Sized ∧ initial.Guarded (zerosAfter 0) 0 ∧
      (∃ after, initial.restore (zerosAfter (-1)) 0 = .ok 4377 after ∧ ¬ after.InOrder 0) ∧
      ∃ fault, initial.restore [] 0 = .error fault initial ∧ fault.kind = .value := by
  have sized : initial.Sized := initial_wellFormed.sized
  have strict : ¬ Lenient (zerosAfter 0) 0 := by
    rintro ⟨depth, -, value, ⟨position, found, -⟩, strange⟩
    have zeros : zerosAfter 0 = List.replicate 4377 0 := List.replicate_succ.symm
    have zero := Slice.mem_of_element found
    rw [zeros] at zero
    rw [List.eq_of_mem_replicate zero, IsByte] at strange
    exact strange (by decide)
  have unfit : ¬ Fits (zerosAfter (-1)) 0 0 := by
    intro fits
    obtain ⟨high, low, first, -, byte, -⟩ := fits.pc
    cases first
    exact absurd byte.1 (by decide)
  have nothing : ¬ ∃ depth, Restorable [] 0 depth := by
    rintro ⟨depth, restorable⟩
    cases restorable.found
  obtain ⟨after, restored, inOrder⟩ :=
    (restore_of_any_numbers sized (zerosAfter (-1)) 0).2.1 0 (zerosAfter_restorable (-1))
  exact ⟨sized, (restore_of_any_numbers sized (zerosAfter 0) 0).1.2 strict,
    ⟨after, restored, fun formed => unfit (inOrder.1 formed)⟩,
    (restore_of_any_numbers sized [] 0).2.2 nothing⟩

end Machine

end ChipEight
