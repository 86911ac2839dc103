import ChipEight.Proofs.Layout
import ChipEight.Proofs.Loading
import ChipEight.Session

namespace ChipEight

/-! A snapshot is restored as a whole or not at all.

Memory is written before the picture is decoded, so the decoding must not fail any more.
Where a whole block of memory has been found, counted from either end of the data, the
bytes after it exist too: the data are longer than memory, and a picture is shorter.
-/

namespace Slice

variable {α : Type} {position : Int}

theorem element_ok (values : List α) (low : -(values.length : Int) ≤ position)
    (high : position < values.length) : ∃ value, element values position = .ok value := by
  obtain ⟨index, counted⟩ : ∃ index : Nat, index = if position < 0 then position + values.length
      else position :=
    ⟨(if position < 0 then position + values.length else position).toNat, by split <;> omega⟩
  have inside : index < values.length := by split at counted <;> omega
  exact ⟨_, element_eq_ok_iff.2 ⟨index, counted, List.getElem?_eq_getElem inside⟩⟩

theorem length_window (values : List α) (start stop : Int) :
    (window values start stop).length = cut values.length stop - cut values.length start := by
  have within : cut values.length stop ≤ values.length := Nat.min_le_right ..
  rw [window, List.length_take, List.length_drop]
  omega

/-- A window that nothing was cut off from lies on one side of the end that its
positions are counted from. -/
theorem whole_window {values : List α} {size : Nat} (positive : 0 < size)
    (whole : (window values position (position + size)).length = size) :
    -(values.length : Int) ≤ position ∧ position + size ≤ values.length ∧
      (position < 0 → position + size < 0) := by
  rw [length_window] at whole
  simp only [cut] at whole
  omega

end Slice

theorem length_bytesOf {values : List Int} {bytes : List UInt8}
    (read : bytesOf values = .ok bytes) : bytes.length = values.length := by
  unfold bytesOf at read
  split at read
  · cases read
    exact List.length_map ..
  · cases read

theorem Memory.restore_eq_ok {memory after : Memory} {data : List Int} {offset : Int}
    (restored : memory.restore data offset = .ok after) :
    after.size = memory.size ∧
      (Slice.window data offset (offset + memory.size)).length = memory.size := by
  simp only [restore, bind_eq_ok_iff] at restored
  obtain ⟨block, read, rest⟩ := restored
  have length := length_bytesOf read
  by_cases whole : block.length = memory.size
  · rw [if_neg (not_not_intro whole)] at rest
    cases rest
    exact ⟨whole, length.symm.trans whole⟩
  · rw [if_pos whole] at rest
    cases rest

namespace Screen

variable {screen : Screen} {data : List Int} {position : Int}

theorem fillPieces_ok (pieces : List (List Bool)) (low : -(data.length : Int) ≤ position)
    (high : position + pieces.length ≤ data.length) :
    ∃ filled, fillPieces data position pieces = .ok () filled := by
  induction pieces generalizing position with
  | nil => exact ⟨[], rfl⟩
  | cons piece rest induction =>
      rw [List.length_cons] at high
      obtain ⟨byte, found⟩ := Slice.element_ok data low (by omega)
      have next : -(data.length : Int) ≤ position + 1 := by omega
      obtain ⟨others, filled⟩ := induction next (by omega)
      exact ⟨(unpackByte byte).take piece.length :: others,
        by simp only [fillPieces, found, filled]⟩

theorem fillRows_ok (rows : List (List Bool)) (low : -(data.length : Int) ≤ position)
    (high : position + (rows.flatMap (Slice.pieces 8)).length ≤ data.length) :
    ∃ filled, fillRows data position rows = .ok () filled := by
  induction rows generalizing position with
  | nil => exact ⟨[], rfl⟩
  | cons row rest induction =>
      rw [List.flatMap_cons, List.length_append] at high
      obtain ⟨pieces, first⟩ := fillPieces_ok (Slice.pieces 8 row) low (by omega)
      have next : -(data.length : Int) ≤ position + (Slice.pieces 8 row).length := by omega
      obtain ⟨others, filled⟩ := induction next (by omega)
      exact ⟨pieces.flatten :: others, by simp only [fillRows, first, filled]⟩

theorem Standard.restore_ok (standard : screen.Standard) (low : -(data.length : Int) ≤ position)
    (high : position + 0x100 ≤ data.length) :
    ∃ shown, screen.restore data position = .ok 0x100 shown := by
  have total : (screen.rows.flatMap (Slice.pieces 8)).length = 0x100 := by
    have each := List.map_congr_left fun row member => (standard.pieces_row member).1
    rw [List.length_flatMap, each, List.map_const', standard.rows, List.sum_replicate_nat]
  obtain ⟨rows, filled⟩ := fillRows_ok screen.rows low (by omega)
  refine ⟨{ screen with rows }, ?_⟩
  rw [restore, standard.packedSize_eq, if_neg (by omega), filled]

end Screen

namespace Machine

variable {machine left : Machine} {data : List Int} {offset : Int} {fault : Fault}
  {header : Header} {memory : Memory}

theorem Sized.blocks (sized : machine.Sized) :
    (machine.memory.size : Int) + machine.screen.packedSize = 0x1100 := by
  rw [sized.memory, sized.screen.packedSize_eq]
  rfl

/-- Nothing fails any more once there is something to write to memory. -/
theorem Sized.restore_ok (sized : machine.Sized) (read : Header.read data offset = .ok header)
    (room : 0x1100 ≤ (data.length : Int) - (offset + header.size))
    (written : machine.memory.restore data (offset + header.size) = .ok memory) :
    ∃ screen, machine.screen.restore data (offset + header.size + 0x1000) = .ok 0x100 screen ∧
      machine.restore data offset =
        .ok (header.size + 0x1100) ({ machine with memory, screen }.withHeader header) := by
  have size : machine.memory.size = 0x1000 := sized.memory
  obtain ⟨same, whole⟩ := Memory.restore_eq_ok written
  rw [size] at same whole
  obtain ⟨low, high, oneSided⟩ := Slice.whole_window (by decide) whole
  have inside : -(data.length : Int) ≤ offset + header.size + (0x1000 : Nat) := by omega
  obtain ⟨screen, shown⟩ := sized.screen.restore_ok inside (by omega)
  refine ⟨screen, shown, ?_⟩
  simp only [restore, read, sized.blocks, if_neg (Int.not_lt.2 room), written, same, shown]
  rw [Int.add_assoc]
  rfl

theorem Sized.restore_unwritten (sized : machine.Sized)
    (read : Header.read data offset = .ok header)
    (room : 0x1100 ≤ (data.length : Int) - (offset + header.size))
    (refused : machine.memory.restore data (offset + header.size) = .error fault) :
    machine.restore data offset = .error fault machine := by
  simp only [restore, read, sized.blocks, if_neg (Int.not_lt.2 room), refused]

theorem Sized.restore_error (sized : machine.Sized)
    (failed : machine.restore data offset = .error fault left) : left = machine := by
  cases read : Header.read data offset with
  | error reason =>
      simp only [restore, read] at failed
      cases failed
      rfl
  | ok header =>
      by_cases short : (data.length : Int) - (offset + header.size) < 0x1100
      · simp only [restore, read, sized.blocks, if_pos short] at failed
        cases failed
        rfl
      have room := Int.not_lt.1 short
      cases written : machine.memory.restore data (offset + header.size) with
      | error reason =>
          cases (sized.restore_unwritten read room written).symm.trans failed
          rfl
      | ok memory =>
          obtain ⟨screen, -, completed⟩ := sized.restore_ok read room written
          cases completed.symm.trans failed

end Machine

namespace Session

variable {session left : Session} {directory : Directory} {path : Path} {fault : Fault}

theorem restore_error (sized : session.machine.Sized)
    (failed : session.restore directory path = .error fault left) : left = session := by
  cases read : readSnapshot directory path with
  | error reason =>
      simp only [restore, read] at failed
      cases failed
      rfl
  | ok data =>
      cases restored : session.machine.restore data signature.length with
      | ok taken machine => simp [restore, read, restored] at failed
      | error reason machine =>
          have same := sized.restore_error restored
          simp only [restore, read, restored, same] at failed
          cases failed
          rfl

end Session

namespace Machine

/-- Restoring succeeds as a whole or changes nothing, for data of any numbers at any offset.

The screen comes last, after memory has been replaced.  It cannot fail any more, since the room for
both has been looked at before. -/
theorem restore_all_or_nothing :
    (∀ (machine : Machine) (data : List Int) (offset : Int), machine.Sized →
      (∀ fault left, machine.restore data offset = .error fault left → left = machine) ∧
        ∀ header memory, Header.read data offset = .ok header →
          0x1100 ≤ (data.length : Int) - (offset + header.size) →
          machine.memory.restore data (offset + header.size) = .ok memory →
          ∃ screen,
            machine.screen.restore data (offset + header.size + 0x1000) = .ok 0x100 screen ∧
              machine.restore data offset =
                .ok (header.size + 0x1100) ({ machine with memory, screen }.withHeader header)) ∧
    ∀ (session : Session) (directory : Directory) (path : Path), session.machine.Sized →
      ∀ fault left, session.restore directory path = .error fault left → left = session := by
  constructor
  · intro machine data offset sized
    constructor
    · intro fault left failed
      exact sized.restore_error failed
    · intro header memory read room written
      exact sized.restore_ok read room written
  · intro session directory path sized fault left failed
    exact Session.restore_error sized failed

/-- With a depth of minus 4000 both counts of what is left are passed, and only the block of
memory is found to be missing.  With nothing but zeros all is there. -/
theorem restore_negative_depth :
    initial.Sized ∧
      (∃ left,
        initial.restore (List.replicate 24 0 ++ [-4000]) 0 = .error (.truncated .memory) left ∧
          left = initial) ∧
      (∃ data header memory,
        Header.read data 0 = .ok header ∧ 0x1100 ≤ (data.length : Int) - (0 + header.size) ∧
          initial.memory.restore data (0 + header.size) = .ok memory ∧
          ∃ after, initial.restore data 0 = .ok (header.size + 0x1100) after) ∧
      ∃ (session : Session) (directory : Directory) (path : Path) (fault : Fault) (left : Session),
        session.machine = initial ∧ session.restore directory path = .error fault left ∧
          left = session := by
  have sized : initial.Sized := initial_wellFormed.sized
  have size : initial.memory.size = 0x1000 := sized.memory
  have short : initial.restore (List.replicate 24 0 ++ [-4000]) 0 =
      .error (.truncated .memory) initial := by
    have read : Header.read (List.replicate 24 0 ++ [-4000]) 0 = .ok
        { pc := 0
          index := 0
          opcode := 0
          delay := 0
          sound := 0
          registers := List.replicate 16 0
          depth := -4000
          entries := [] } := rfl
    have window : Slice.window (List.replicate 24 0 ++ [-4000]) (0 + -7975)
        (0 + -7975 + (0x1000 : Nat)) = [] := rfl
    apply sized.restore_unwritten read (by decide)
    change initial.memory.restore _ (0 + -7975) = _
    rw [Memory.restore, size, window]
    rfl
  let front : Front :=
    { pc := (0, 0)
      index := (0, 0)
      opcode := (0, 0)
      delay := 0
      sound := 0
      registers := List.replicate registerCount 0
      count := List.length_replicate
      depth := 0 }
  let block : List UInt8 := List.replicate 0x1000 0
  let picture : List Int := List.replicate 0x100 0
  have read : Header.read (front.row ++ (numbers block ++ picture)) 0 = .ok (front.header []) :=
    @Header.read_entries [] front [] rfl _
  have room : 0x1100 ≤ ((front.row ++ (numbers block ++ picture)).length : Int) - (0 + 25) := by
    simp only [List.length_append, Front.length_row, length_numbers, block, picture,
      List.length_replicate]
    decide
  have written : initial.memory.restore (front.row ++ (numbers block ++ picture)) (0 + 25) =
      .ok ⟨block.toArray⟩ :=
    Memory.restore_append (List.length_replicate.trans size.symm)
  let session : Session :=
    { loadsFont := false
      cyclesPerFrame := 1
      machine := initial
      debugger := {}
      total := 0
      program := [] }
  have nothing : session.restore (Directory.ofFiles []) ⟨.here, ["s"]⟩ =
      .error (.noSnapshot "s") session := by
    have nameable : Path.nameable (Path.mk .here ["s"]).text = true := by
      rw [Path.nameable, String.contains_char_eq]
      decide
    have reached : (Directory.ofFiles []).reach ⟨.here, ["s"]⟩ = .ok () := by
      rw [Directory.reach, nameable]
      rfl
    rw [Session.restore, Session.readSnapshot, Directory.has, reached]
    rfl
  obtain ⟨atomic, completes⟩ :=
    restore_all_or_nothing.1 initial (front.row ++ (numbers block ++ picture)) 0 sized
  obtain ⟨screen, -, completed⟩ := completes _ _ read room written
  exact ⟨sized, ⟨_, short, (restore_all_or_nothing.1 _ _ _ sized).1 _ _ short⟩,
    ⟨_, _, _, read, room, written, _, completed⟩,
    session, _, _, _, _, rfl, nothing, restore_all_or_nothing.2 session _ _ sized _ _ nothing⟩

end Machine

end ChipEight
