import ChipEight.Machine.Call
import ChipEight.Proofs.SnapshotAtomicity
import ChipEight.Proofs.Step

namespace ChipEight

/-! The sizes of memory and picture, which nothing changes.

A memory is written by copying over bytes that are there, and a row of pixels is
replaced by one of its length.  That holds of an action that fails halfway as well.
-/

theorem Memory.size_change {memory after : Memory} {change : Change}
    (changed : memory.change change = .ok after) : after.size = memory.size := by
  cases change with
  | write address value => exact memory.size_write changed
  | load address block => exact memory.size_load changed
  | writeSlice start stop step block =>
      simp only [Memory.change, writeSlice] at changed
      split at changed
      · cases changed
      split at changed
      · cases changed
      · exact memory.size_load changed
  | clear =>
      cases changed
      exact memory.size_clear
  | restore data offset => exact (restore_eq_ok changed).1

namespace Screen

variable {left right screen : Screen}

theorem SameShape.standard (shape : left.SameShape right) (standard : right.Standard) :
    left.Standard where
  width := shape.width.trans standard.width
  height := shape.height.trans standard.height
  rows := shape.length_rows.trans standard.rows
  columns := shape.columns standard.columns

theorem write_sameShape {x y : Int} {lit : Bool} (written : screen.write x y lit = .ok left) :
    left.SameShape screen := by
  simp only [write, bind_eq_ok_iff] at written
  obtain ⟨_, -, result⟩ := written
  cases result
  refine ⟨rfl, rfl, ?_⟩
  apply List.ext_getElem?
  intro row
  simp only [List.getElem?_map, List.getElem?_modify]
  split
  · cases screen.rows[row]? <;> simp
  · simp

theorem draw_sameShape {x y : Int} {sprite : List UInt8} {collision : Bool}
    (drawn : screen.draw x y sprite = .ok (collision, left)) : left.SameShape screen := by
  simp only [draw] at drawn
  split at drawn
  · cases drawn
  · cases drawn
    exact drawn_sameShape ..

theorem fillRows_lengths (data : List Int) (position : Int) (rows : List (List Bool)) :
    (fillRows data position rows).state.map List.length = rows.map List.length := by
  induction rows generalizing position with
  | nil => rfl
  | cons row rest induction =>
      have later := induction (position + (Slice.pieces 8 row).length)
      have pieces := fillPieces_lengths data position (Slice.pieces 8 row) fun piece member =>
        Slice.length_le_of_mem_pieces (by decide) member
      -- What the pieces are filled with is as long, put together, as the row was.
      have filled : ((fillPieces data position (Slice.pieces 8 row)).state.flatten).length =
          row.length := by
        rw [List.length_flatten, pieces, ← List.length_flatten, Slice.flatten_pieces]
      simp only [fillRows]
      cases first : fillPieces data position (Slice.pieces 8 row) with
      | error fault left =>
          rw [first] at filled
          exact congrArg (· :: rest.map List.length) filled
      | ok _ left =>
          rw [first] at filled
          cases fills : fillRows data (position + (Slice.pieces 8 row).length) rest <;>
            simp only [fills, Outcome.state] at later filled ⊢ <;>
            rw [List.map_cons, List.map_cons, filled, later]

theorem restore_sameShape (screen : Screen) (data : List Int) (offset : Int) :
    (screen.restore data offset).state.SameShape screen := by
  have lengths := fillRows_lengths data offset screen.rows
  simp only [restore]
  split
  · exact ⟨rfl, rfl, rfl⟩
  · cases fills : fillRows data offset screen.rows <;> rw [fills] at lengths <;>
      exact ⟨rfl, rfl, lengths⟩

theorem change_sameShape (screen : Screen) (change : Change) :
    (screen.change change).SameShape screen := by
  have same : screen.SameShape screen := ⟨rfl, rfl, rfl⟩
  cases change with
  | write x y lit =>
      apply Outcome.settle_of (P := (SameShape · screen)) same
      intro after written
      exact write_sameShape written
  | draw x y sprite =>
      apply Outcome.settle_of (P := (SameShape · screen)) same
      intro after drawn
      cases result : screen.draw x y sprite with
      | error fault => simp [result, Except.map] at drawn
      | ok pair =>
          rw [result] at drawn
          cases drawn
          exact draw_sameShape result
  | clear => exact screen.clear_sameShape
  | restore data offset => exact screen.restore_sameShape data offset

end Screen

namespace Machine

variable {machine after left : Machine} {fault : Fault}

/-- A step that fails has at most fetched the word. -/
theorem step_eq_error (failed : machine.step = .error fault left) :
    left = machine ∨ ∃ word, left = machine.fetched word := by
  simp only [step] at failed
  split at failed
  · cases failed
    exact .inl rfl
  split at failed
  · cases failed
    exact .inl rfl
  split at failed
  · cases failed
    exact .inr ⟨_, rfl⟩
  · cases failed

theorem step_memory (machine : Machine) : machine.step.state.memory = machine.memory := by
  cases stepped : machine.step with
  | error fault left => rcases step_eq_error stepped with rfl | ⟨word, rfl⟩ <;> rfl
  | ok _ after =>
      obtain ⟨word, instruction, executed, -, -, -, execution, rfl⟩ := step_eq_ok stepped
      exact (execute_effect execution).memory

theorem step_sameShape (machine : Machine) :
    machine.step.state.screen.SameShape machine.screen := by
  cases stepped : machine.step with
  | error fault left => rcases step_eq_error stepped with rfl | ⟨word, rfl⟩ <;> exact ⟨rfl, rfl, rfl⟩
  | ok _ after =>
      obtain ⟨word, instruction, executed, -, -, -, execution, rfl⟩ := step_eq_ok stepped
      exact (execute_effect execution).shape

/-- Everything a completed restoration has read. -/
theorem restore_eq_ok {data : List Int} {offset count : Int}
    (restored : machine.restore data offset = .ok count after) :
    ∃ header memory screen taken, Header.read data offset = .ok header ∧
      machine.memory.restore data (offset + header.size) = .ok memory ∧
      machine.screen.restore data (offset + header.size + memory.size) = .ok taken screen ∧
      after = { machine with memory, screen }.withHeader header := by
  simp only [restore] at restored
  split at restored
  · cases restored
  next header read =>
  split at restored
  · cases restored
  split at restored
  · cases restored
  next memory written =>
  split at restored
  · cases restored
  next taken screen shown =>
    cases restored
    exact ⟨header, memory, screen, taken, read, written, shown, rfl⟩

theorem store_eq_ok {address : Int} {block : List UInt8}
    (stored : machine.store address block = .ok after) :
    ∃ memory : Memory, memory.size = machine.memory.size ∧ after = { machine with memory } := by
  simp only [store, bind_eq_ok_iff] at stored
  obtain ⟨memory, loaded, result⟩ := stored
  cases result
  exact ⟨memory, machine.memory.size_load loaded, rfl⟩

theorem loadFont_eq_ok {glyphs : Option (List UInt8)} (loaded : machine.loadFont glyphs = .ok after) :
    ∃ memory : Memory, memory.size = machine.memory.size ∧ after = { machine with memory } := by
  simp only [loadFont] at loaded
  split at loaded
  · cases loaded
  split at loaded
  · exact store_eq_ok loaded
  · cases loaded

theorem loadProgram_eq_ok {program : List UInt8}
    (loaded : machine.loadProgram program = .ok after) :
    program.length ≤ programRoom ∧
      ∃ memory : Memory, memory.size = machine.memory.size ∧
        after = ({ machine with memory } : Machine).setPc programStart := by
  simp only [loadProgram] at loaded
  split at loaded
  · cases loaded
  · next fits =>
    obtain ⟨stored, copied, result⟩ := bind_eq_ok_iff.1 loaded
    obtain ⟨memory, size, rfl⟩ := store_eq_ok copied
    cases result
    exact ⟨Nat.not_lt.1 fits, memory, size, rfl⟩

theorem pokeRegister_eq_ok {position value : Int}
    (poked : machine.pokeRegister position value = .ok after) :
    ∃ registers : List UInt8, registers.length = machine.registers.length ∧
      after = { machine with registers } := by
  simp only [pokeRegister] at poked
  split at poked
  · cases poked
  split at poked
  · cases poked
  split at poked
  · cases poked
  · cases poked
    exact ⟨_, List.length_set .., rfl⟩

namespace Sized

theorem step (sized : machine.Sized) : machine.step.state.Sized :=
  ⟨machine.step_memory ▸ sized.memory, machine.step_sameShape.standard sized.screen⟩

theorem restore_state (sized : machine.Sized) (data : List Int) (offset : Int) :
    (machine.restore data offset).state.Sized := by
  cases restored : machine.restore data offset with
  | error fault left => exact sized.restore_error restored ▸ sized
  | ok count after =>
      obtain ⟨header, memory, screen, taken, -, written, shown, rfl⟩ := restore_eq_ok restored
      have shape := machine.screen.restore_sameShape data (offset + header.size + memory.size)
      rw [shown] at shape
      exact ⟨(Memory.restore_eq_ok written).1.trans sized.memory, shape.standard sized.screen⟩

theorem loadProgram (sized : machine.Sized) {program : List UInt8}
    (loaded : machine.loadProgram program = .ok after) : after.Sized := by
  obtain ⟨-, memory, size, rfl⟩ := loadProgram_eq_ok loaded
  exact ⟨size.trans sized.memory, sized.screen⟩

theorem reset (sized : machine.Sized) : machine.reset.Sized :=
  ⟨machine.memory.size_clear.trans sized.memory, machine.screen.clear_sameShape.standard sized.screen⟩

theorem call (sized : machine.Sized) (call : Call) : (machine.call call).Sized := by
  cases call with
  | setPc value | setIndex value | setDelay value | setSound value | push address =>
      exact ⟨sized.memory, sized.screen⟩
  | pokeRegister position value =>
      apply Outcome.settle_of sized
      intro after poked
      obtain ⟨registers, -, rfl⟩ := pokeRegister_eq_ok poked
      exact ⟨sized.memory, sized.screen⟩
  | memory change =>
      have size : (Outcome.settle machine.memory (machine.memory.change change)).size =
          machine.memory.size :=
        Outcome.settle_of (P := fun memory => memory.size = machine.memory.size) rfl
          fun after changed => Memory.size_change changed
      exact ⟨size.trans sized.memory, sized.screen⟩
  | screen change =>
      exact ⟨sized.memory, (machine.screen.change_sameShape change).standard sized.screen⟩
  | loadFont glyphs =>
      apply Outcome.settle_of sized
      intro after loaded
      obtain ⟨memory, size, rfl⟩ := loadFont_eq_ok loaded
      exact ⟨size.trans sized.memory, sized.screen⟩
  | loadProgram program =>
      apply Outcome.settle_of sized
      intro after loaded
      exact sized.loadProgram loaded
  | reset => exact sized.reset
  | step => exact sized.step
  | restore data offset => exact sized.restore_state _ _

end Sized

end Machine

end ChipEight
