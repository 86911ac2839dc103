import ChipEight.Proofs.Shape

namespace ChipEight

/-! The range of every value of a machine, whatever has been done to it.

A host may write any numbers and is refused or has them cut down to their width; only a
snapshot is taken over as it stands, and that consists of bytes.  So no series of calls leads
to a machine on which a step fails with anything but a fault of its own.
-/

namespace Slice

theorem mem_of_element {α : Type} {values : List α} {position : Int} {value : α}
    (found : element values position = .ok value) : value ∈ values := by
  obtain ⟨index, -, there⟩ := element_eq_ok_iff.1 found
  exact List.mem_of_getElem? there

end Slice

namespace Bits

theorem union_nonneg_iff {left right : Int} : 0 ≤ union left right ↔ 0 ≤ left ∧ 0 ≤ right := by
  cases left <;> cases right <;> simp [union]

theorem union_natCast_lt_iff {left right : Nat} :
    union left right < 0x10000 ↔ left < 0x10000 ∧ right < 0x10000 := by
  change ((left ||| right : Nat) : Int) < (0x10000 : Nat) ↔ _
  rw [Int.ofNat_lt]
  constructor
  · intro small
    exact ⟨Nat.lt_of_le_of_lt Nat.left_le_or small, Nat.lt_of_le_of_lt Nat.right_le_or small⟩
  · rintro ⟨leftSmall, rightSmall⟩
    exact Nat.or_lt_two_pow (n := 16) leftSmall rightSmall

end Bits

namespace Machine

variable {machine after left : Machine} {fault : Fault} {data : List UInt8}
  {position value high low : Int}

def IsByte (value : Int) : Prop := 0 ≤ value ∧ value < 0x100

def IsWord (value : Int) : Prop := 0 ≤ value ∧ value < 0x10000

theorem isWord_lowWord (value : Int) : IsWord (Bits.lowWord value) := by
  simp only [IsWord, Bits.lowWord]
  omega

theorem isWord_word (word : Word) : IsWord word.toNat := by
  have := word.toNat_lt
  simp only [IsWord]
  omega

theorem isByte_element (found : Slice.element (numbers data) position = .ok value) :
    IsByte value :=
  byte_of_mem_numbers (Slice.mem_of_element found)

/-- Only the high one of two numbers has to be a byte for them to make up a word. -/
theorem isWord_paired : IsWord (paired high low) ↔ IsByte high ∧ IsWord low := by
  unfold IsWord paired
  rw [Bits.union_nonneg_iff]
  by_cases positive : 0 ≤ high ∧ 0 ≤ low
  · obtain ⟨high, rfl⟩ := Int.eq_ofNat_of_zero_le positive.1
    obtain ⟨low, rfl⟩ := Int.eq_ofNat_of_zero_le positive.2
    have small : Bits.union ((high : Int) * 0x100) low < 0x10000 ↔ _ :=
      @Bits.union_natCast_lt_iff (high * 0x100) low
    rw [small]
    simp only [IsByte]
    omega
  · simp only [IsByte]
    omega

theorem isWord_pairAt (found : pairAt (numbers data) position = .ok value) : IsWord value := by
  simp only [pairAt, bind_eq_ok_iff] at found
  obtain ⟨high, first, low, second, result⟩ := found
  cases result
  have small := (isByte_element second).2
  exact isWord_paired.2 ⟨isByte_element first, (isByte_element second).1, by omega⟩

theorem isWord_pairsAt {count : Nat} {entries : List Int}
    (found : pairsAt (numbers data) position count = .ok entries) :
    ∀ entry ∈ entries, IsWord entry := by
  induction count generalizing position entries with
  | zero =>
      cases found
      intro entry member
      cases member
  | succ count induction =>
      simp only [pairsAt, bind_eq_ok_iff] at found
      obtain ⟨first, begun, rest, later, result⟩ := found
      cases result
      intro entry member
      rcases List.mem_cons.1 member with rfl | member
      · exact isWord_pairAt begun
      · exact induction later entry member

/-- A window of this many numbers lies within the data wherever a whole header does. -/
theorem length_registers {offset : Nat} {registers : List UInt8}
    (long : offset + headerSize ≤ data.length)
    (read : bytesOf (Slice.window (numbers data) (offset + 8) (offset + 8 + registerCount)) =
      .ok registers) : registers.length = registerCount := by
  rw [length_bytesOf read, Slice.length_window]
  simp only [headerSize, registerCount, Slice.cut, length_numbers] at long ⊢
  omega

/-- The widths of all values, where `Sized` has the sizes of memory and picture. -/
structure Ranged (machine : Machine) : Prop where
  pc : IsWord machine.pc
  index : IsWord machine.index
  opcode : IsWord machine.opcode
  delay : IsByte machine.delay
  sound : IsByte machine.sound
  registers : machine.registers.length = registerCount
  entries : ∀ entry ∈ machine.stack, IsWord entry

/-- What is read from bytes as a header is in range. -/
theorem ranged_withHeader {offset : Nat} {header : Header}
    (read : Header.read (numbers data) offset = .ok header) :
    (machine.withHeader header).Ranged := by
  simp only [Header.read] at read
  split at read
  · cases read
  next long =>
  simp only [throw_eq_error, pure_eq_ok, bind_eq_ok_iff] at read
  obtain ⟨pc, atPc, index, atIndex, opcode, atOpcode, delay, atDelay, sound, atSound, registers,
    atRegisters, depth, -, read⟩ := read
  split at read
  · cases read
  simp only [bind_eq_ok_iff] at read
  obtain ⟨entries, atEntries, result⟩ := read
  cases result
  rw [length_numbers] at long
  exact
    { pc := isWord_pairAt atPc
      index := isWord_pairAt atIndex
      opcode := isWord_pairAt atOpcode
      delay := isByte_element atDelay
      sound := isByte_element atSound
      registers := length_registers (by omega) atRegisters
      entries := by
        intro entry member
        exact isWord_pairsAt atEntries entry (List.mem_reverse.1 member) }

theorem Ranged.wellFormed (ranged : machine.Ranged) (sized : machine.Sized) :
    machine.WellFormed where
  pc := ranged.pc
  index := ranged.index
  delay := ranged.delay
  sound := ranged.sound
  registers := ranged.registers
  memory := sized.memory
  width := sized.screen.width
  height := sized.screen.height
  rows := sized.screen.rows
  columns := sized.screen.columns

theorem initial_ranged : initial.Ranged where
  pc := initial_wellFormed.pc
  index := initial_wellFormed.index
  opcode := by
    change (0 : Int) ≤ 0 ∧ (0 : Int) < 0x10000
    decide
  delay := initial_wellFormed.delay
  sound := initial_wellFormed.sound
  registers := initial_wellFormed.registers
  entries := by
    intro entry member
    cases member

namespace Ranged

theorem fetched (ranged : machine.Ranged) (word : Word) : (machine.fetched word).Ranged :=
  { ranged with
    pc := isWord_lowWord _
    opcode := isWord_word word }

/-- The stack grows by a program counter, and that is a word. -/
theorem effect {instruction : Instruction} (ranged : machine.Ranged) (sized : machine.Sized)
    (effect : Effect machine instruction after) : after.Ranged := by
  have formed := effect.wellFormed (ranged.wellFormed sized)
  refine ⟨formed.pc, formed.index, effect.opcode ▸ ranged.opcode, formed.delay, formed.sound,
    formed.registers, ?_⟩
  intro entry member
  rcases effect.stack with same | ⟨target, -, pushed⟩ | ⟨-, top, popped⟩
  · exact ranged.entries entry (same ▸ member)
  · rw [pushed] at member
    rcases List.mem_cons.1 member with rfl | member
    · exact ranged.pc
    · exact ranged.entries entry member
  · exact ranged.entries entry (popped ▸ List.mem_cons_of_mem top member)

theorem step (ranged : machine.Ranged) (sized : machine.Sized) : machine.step.state.Ranged := by
  cases stepped : machine.step with
  | error fault left =>
      rcases step_eq_error stepped with rfl | ⟨word, rfl⟩
      · exact ranged
      · exact ranged.fetched word
  | ok _ after =>
      have formed := (ranged.wellFormed sized).step stepped
      obtain ⟨word, instruction, executed, -, -, -, execution, rfl⟩ := step_eq_ok stepped
      have fetched : (machine.fetched word).Sized := ⟨sized.memory, sized.screen⟩
      have run := (ranged.fetched word).effect fetched (execute_effect execution)
      exact { run with
        delay := formed.delay
        sound := formed.sound }

theorem restore (ranged : machine.Ranged) (sized : machine.Sized) (data : List UInt8)
    (offset : Nat) : (machine.restore (numbers data) offset).state.Ranged := by
  cases restored : machine.restore (numbers data) offset with
  | error fault left => exact sized.restore_error restored ▸ ranged
  | ok count after =>
      obtain ⟨header, memory, screen, taken, read, -, -, rfl⟩ := restore_eq_ok restored
      exact ranged_withHeader read

theorem call (ranged : machine.Ranged) (sized : machine.Sized) (call : Call) :
    (machine.call call).Ranged := by
  cases call with
  | setPc value => exact { ranged with pc := isWord_lowWord value }
  | setIndex value => exact { ranged with index := isWord_lowWord value }
  | setDelay value =>
      have byte : IsByte (value % 0x100) := by
        simp only [IsByte]
        omega
      exact { ranged with delay := byte }
  | setSound value =>
      have byte : IsByte (value % 0x100) := by
        simp only [IsByte]
        omega
      exact { ranged with sound := byte }
  | pokeRegister position value =>
      apply Outcome.settle_of ranged
      intro after poked
      obtain ⟨registers, count, rfl⟩ := pokeRegister_eq_ok poked
      exact { ranged with registers := count.trans ranged.registers }
  | push address =>
      refine { ranged with entries := ?_ }
      intro entry member
      rcases List.mem_cons.1 member with rfl | member
      · exact isWord_word address
      · exact ranged.entries entry member
  | memory change | screen change => exact { ranged with }
  | loadFont glyphs =>
      apply Outcome.settle_of ranged
      intro after loaded
      obtain ⟨memory, -, rfl⟩ := loadFont_eq_ok loaded
      exact { ranged with }
  | loadProgram program =>
      apply Outcome.settle_of ranged
      intro after loaded
      obtain ⟨-, memory, -, rfl⟩ := loadProgram_eq_ok loaded
      exact { ranged with pc := isWord_lowWord _ }
  | reset => exact { initial_ranged with }
  | step => exact ranged.step sized
  | restore data offset => exact ranged.restore sized data offset

end Ranged

theorem calls_ranged (series : List Call) (ranged : machine.Ranged) (sized : machine.Sized) :
    (machine.calls series).Ranged ∧ (machine.calls series).Sized := by
  induction series generalizing machine with
  | nil => exact ⟨ranged, sized⟩
  | cons call rest induction => exact induction (ranged.call sized call) (sized.call call)

/-- No series of calls brings a number of the machine out of its range, and a step never fails for
anything but its word, an empty stack or an address beyond memory. -/
theorem calls_keep_representation (series : List Call) :
    (initial.calls series).WellFormed ∧
      (∀ entry ∈ (initial.calls series).stack, 0 ≤ entry ∧ entry < 0x10000) ∧
      ((∃ after, (initial.calls series).step = .ok () after) ∨
        ∃ fault left, (initial.calls series).step = .error fault left ∧
          (fault.kind = .unknownOpcode ∨ fault.kind = .emptyStack ∨ fault.kind = .bounds)) := by
  obtain ⟨ranged, sized⟩ := calls_ranged series initial_ranged initial_wellFormed.sized
  have formed := ranged.wellFormed sized
  exact ⟨formed, ranged.entries, formed.step_result⟩

/-- No font is refused, and a program counter below zero comes out as one beyond memory. -/
theorem refused_calls_keep_representation :
    let machine := initial.calls [.push (.ofInt 0x3FF), .loadFont none, .setPc (-1)]
    machine.WellFormed ∧ machine.stack = [0x3FF] ∧ (∀ entry ∈ machine.stack, IsWord entry) ∧
      machine.step = .error (.fetchOutsideMemory 0xFFFF) machine := by
  intro machine
  obtain ⟨formed, entries, -⟩ :=
    calls_keep_representation [.push (.ofInt 0x3FF), .loadFont none, .setPc (-1)]
  have refused : machine.refusal? = some (.fetchOutsideMemory 0xFFFF) := rfl
  exact ⟨formed, rfl, entries, formed.step_refused refused⟩

end Machine

end ChipEight
