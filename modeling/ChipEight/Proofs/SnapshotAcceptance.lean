import ChipEight.Proofs.Layout
import ChipEight.Proofs.Loading
import ChipEight.Session

namespace ChipEight

/-! Which rows of bytes are snapshots.

There is nothing to check but that there are enough bytes, and how many that is
depends on one of them.  So every long enough row can be taken apart as a snapshot,
and the machine it describes is laid out as the same bytes again.
-/

namespace Machine

variable {target : Machine} {data : List UInt8} {offset count : Nat}

/-- So many bytes at an offset are a snapshot: the 25th of them is the depth of a stack,
and there is room for that, memory and picture. -/
def Accepts (data : List UInt8) (offset count : Nat) : Prop :=
  ∃ depth, data[offset + 24]? = some depth ∧
    count = 25 + 2 * depth.toNat + 0x1000 + 0x100 ∧ offset + count ≤ data.length

theorem exists_scalars {block : List UInt8} (enough : 8 ≤ block.length) :
    ∃ p q i j o r delay sound : UInt8, ∃ rest,
      block = [p, q, i, j, o, r, delay, sound] ++ rest := by
  match block with
  | [] | [_] | [_, _] | [_, _, _] | [_, _, _, _] | [_, _, _, _, _] | [_, _, _, _, _, _]
  | [_, _, _, _, _, _, _] =>
      simp only [List.length_cons, List.length_nil] at enough
      omega
  | p :: q :: i :: j :: o :: r :: delay :: sound :: rest =>
      exact ⟨p, q, i, j, o, r, delay, sound, rest, rfl⟩

theorem exists_front {block : List UInt8} {depth : UInt8} (found : block[24]? = some depth) :
    ∃ front : Front, front.depth = depth.toNat ∧
      numbers block = front.row ++ numbers (block.drop 25) := by
  have long : 24 < block.length := (List.getElem?_eq_some_iff.1 found).1
  obtain ⟨p, q, i, j, o, r, delay, sound, tail, rfl⟩ :=
    exists_scalars (by omega : 8 ≤ block.length)
  obtain ⟨inside, value⟩ := List.getElem?_eq_some_iff.1 (show tail[16]? = some depth from found)
  have split : tail = tail.take 16 ++ depth :: tail.drop 17 := by
    rw [← value, ← List.drop_eq_getElem_cons, List.take_append_drop]
  have registers : (tail.take 16).length = registerCount := by
    rw [List.length_take, Nat.min_eq_left (by omega)]
    rfl
  let front : Front :=
    { pc := (p.toNat, q.toNat)
      index := (i.toNat, j.toNat)
      opcode := (o.toNat, r.toNat)
      delay := delay.toNat
      sound := sound.toNat
      registers := tail.take 16
      count := registers
      depth := depth.toNat }
  refine ⟨front, rfl, ?_⟩
  have rest : ([p, q, i, j, o, r, delay, sound] ++ tail).drop 25 = tail.drop 17 := rfl
  rw [rest, numbers_append]
  conv => lhs; rw [split]
  simp [front, Front.row, Front.scalars, numbers]

theorem exists_layout {block : List UInt8} {depth : UInt8} (found : block[24]? = some depth)
    (length : block.length = 25 + 2 * depth.toNat + 0x1000 + 0x100) :
    ∃ layout : Layout, layout.row = numbers block := by
  obtain ⟨front, same, row⟩ := exists_front found
  obtain ⟨rest, after⟩ : ∃ rest, rest = block.drop 25 := ⟨_, rfl⟩
  have total : rest.length = 2 * front.depth + 0x1000 + 0x100 := by
    rw [after, List.length_drop, same]
    omega
  let layout : Layout :=
    { toFront := front
      frames := numbers (rest.take (2 * front.depth))
      memory := (rest.drop (2 * front.depth)).take 0x1000
      picture := numbers ((rest.drop (2 * front.depth)).drop 0x1000)
      framed := by
        rw [length_numbers, List.length_take]
        omega
      filled := by
        rw [List.length_take, List.length_drop, memorySize]
        omega
      shown := by
        rw [length_numbers, List.length_drop, List.length_drop]
        omega }
  refine ⟨layout, ?_⟩
  simp only [layout, Layout.row, ← numbers_append, List.take_append_drop]
  rw [row, after]

/-- Decoding bytes and encoding them again changes nothing. -/
theorem Layout.snapshot_restored (layout : Layout) (sized : target.Sized)
    (bytes : ∀ value ∈ layout.row, 0 ≤ value ∧ value < 256) :
    (layout.restored target).snapshot = .ok layout.row := by
  have scalar (value : Int) (member : value ∈ layout.scalars) : 0 ≤ value ∧ value < 256 :=
    bytes value (by simp [row, Front.row, member])
  have small : 0 ≤ (layout.depth : Int) ∧ (layout.depth : Int) < 256 :=
    bytes layout.depth (by simp [row, Front.row])
  have frames := flatMap_highLow_pairs layout.framed fun value member =>
    bytes value (by simp [row, member])
  have screen := sized.screen.snapshot_filled layout.shown fun value member =>
    bytes value (by simp [row, member])
  have depth : (layout.restored target).depth = layout.depth := by
    simp [Machine.depth, restored, length_pairs layout.framed]
  have pc := highLow_paired (scalar layout.pc.1 (by simp [Front.scalars]))
    (scalar layout.pc.2 (by simp [Front.scalars]))
  have index := highLow_paired (scalar layout.index.1 (by simp [Front.scalars]))
    (scalar layout.index.2 (by simp [Front.scalars]))
  have opcode := highLow_paired (scalar layout.opcode.1 (by simp [Front.scalars]))
    (scalar layout.opcode.2 (by simp [Front.scalars]))
  rw [snapshot, depth, if_neg (by omega)]
  simp only [restored, pc, index, opcode, List.reverse_reverse, frames, screen]
  simp [row, Front.row, Front.scalars, numbers, Memory.snapshot, Memory.toList]

/-- A row that reaches at least to the depth is refused where it ends too early. -/
theorem Sized.restore_short (sized : target.Sized) {before rest : List Int} (front : Front)
    (short : rest.length < 2 * front.depth + 0x1000 + 0x100) :
    ∃ part, target.restore (before ++ (front.row ++ rest)) before.length =
      .error (.truncated part) target := by
  have memory : target.memory.size = 0x1000 := sized.memory
  by_cases frames : rest.length < 2 * front.depth
  · refine ⟨.stack, ?_⟩
    rw [restore, Header.read_front, if_pos frames]
  · refine ⟨.blocks, ?_⟩
    have framed : (rest.take (2 * front.depth)).length = 2 * front.depth := by
      rw [List.length_take]
      omega
    have header : Header.read (before ++ (front.row ++ rest)) before.length =
        .ok (front.header (pairs (rest.take (2 * front.depth)))) := by
      simpa using Header.read_entries front framed (rest.drop (2 * front.depth))
    have total : (before ++ (front.row ++ rest)).length = before.length + 25 + rest.length := by
      rw [List.length_append, List.length_append, Front.length_row, Nat.add_assoc]
      rfl
    rw [restore, header]
    simp only [Front.size_header, memory, sized.screen.packedSize_eq, total]
    rw [if_pos (by omega)]

theorem restore_headless (target : Machine) (missing : data.length < offset + 25) :
    target.restore (numbers data) offset = .error (.truncated .header) target := by
  have short : ((numbers data).length : Int) - offset < headerSize := by
    simp only [length_numbers, headerSize, registerCount]
    omega
  rw [restore, Header.read, if_pos short]
  rfl

theorem numbers_split (inside : offset ≤ data.length) :
    numbers data = numbers (data.take offset) ++ numbers (data.drop offset) ∧
      (numbers (data.take offset)).length = offset := by
  rw [← numbers_append, List.take_append_drop, length_numbers, List.length_take]
  exact ⟨rfl, Nat.min_eq_left inside⟩

theorem restore_refused (sized : target.Sized) (refused : ¬ ∃ count, Accepts data offset count) :
    ∃ part, target.restore (numbers data) offset = .error (.truncated part) target := by
  cases found : data[offset + 24]? with
  | none =>
      have missing := List.getElem?_eq_none_iff.1 found
      exact ⟨.header, target.restore_headless (by omega)⟩
  | some depth =>
      have long : offset + 24 < data.length := (List.getElem?_eq_some_iff.1 found).1
      have inBlock : (data.drop offset)[24]? = some depth := by rw [List.getElem?_drop, found]
      obtain ⟨front, same, row⟩ := exists_front inBlock
      obtain ⟨split, position⟩ := numbers_split (by omega : offset ≤ data.length)
      have short : (numbers ((data.drop offset).drop 25)).length <
          2 * front.depth + 0x1000 + 0x100 := by
        rw [length_numbers, List.length_drop, List.length_drop]
        have tooLong : ¬ offset + (25 + 2 * depth.toNat + 0x1000 + 0x100) ≤ data.length :=
          fun inside => refused ⟨_, depth, found, rfl, inside⟩
        omega
      have failed : ∃ part, target.restore (numbers (data.take offset) ++ (front.row ++ _)) _ =
          .error (.truncated part) target := sized.restore_short front short
      rw [← row, ← split, position] at failed
      exact failed

theorem Accepts.restore (accepts : Accepts data offset count) (sized : target.Sized) :
    ∃ after, target.restore (numbers data) offset = .ok count after ∧
      after.snapshot = .ok (numbers ((data.drop offset).take count)) := by
  obtain ⟨depth, found, total, inside⟩ := accepts
  obtain ⟨split, position⟩ := numbers_split (by omega : offset ≤ data.length)
  have length : ((data.drop offset).take count).length = count := by
    rw [List.length_take, List.length_drop]
    omega
  have inBlock : ((data.drop offset).take count)[24]? = some depth := by
    rw [List.getElem?_take_of_lt (by omega), List.getElem?_drop, found]
  obtain ⟨layout, row⟩ := exists_layout inBlock (length.trans total)
  have bytes (value : Int) (member : value ∈ layout.row) : 0 ≤ value ∧ value < 256 :=
    byte_of_mem_numbers (row ▸ member)
  have restored : target.restore
      (numbers (data.take offset) ++ (layout.row ++ numbers ((data.drop offset).drop count)))
      (numbers (data.take offset)).length = .ok layout.row.length (layout.restored target) :=
    sized.restore_layout layout
  rw [row, ← numbers_append, List.take_append_drop, ← split, position, length_numbers,
    length] at restored
  exact ⟨_, restored, row ▸ layout.snapshot_restored sized bytes⟩

theorem Accepts.not_cut (accepts : Accepts data offset count) {cut : Nat} (shorter : cut < count) :
    ¬ ∃ other, Accepts (data.take (offset + cut)) offset other := by
  rintro ⟨other, depth, found, total, inside⟩
  obtain ⟨same, sameFound, sameTotal, -⟩ := accepts
  rw [List.length_take] at inside
  rw [List.getElem?_take_of_lt (by omega)] at found
  cases found.symm.trans sameFound
  omega

end Machine

namespace Session

variable {session : Session} {directory : Directory} {path : Path} {file : List UInt8}

theorem has_of_read (opened : directory.read path = .ok file) : directory.has path = .ok true := by
  simp only [Directory.read, bind_eq_ok_iff] at opened
  obtain ⟨_, reached, contents⟩ := opened
  cases found : directory.find? path with
  | none => simp [found] at contents
  | some entry => simp [Directory.has, reached, found]

theorem readSnapshot_eq (opened : directory.read path = .ok file) :
    readSnapshot directory path =
      if file.take signature.length ≠ signature then .error .badSignature
      else .ok (numbers file) := by
  simp only [readSnapshot, has_of_read opened, opened, ok_bind]
  rfl

theorem accepts_append (before rest : List UInt8) (count : Nat) :
    Machine.Accepts (before ++ rest) before.length count ↔ Machine.Accepts rest 0 count := by
  unfold Machine.Accepts
  rw [List.getElem?_append_right (Nat.le_add_right ..), Nat.add_sub_cancel_left, Nat.zero_add,
    List.length_append, Nat.zero_add, Nat.add_le_add_iff_left]

theorem restore_accepted {rest : List UInt8} {count : Nat} (sized : session.machine.Sized)
    (opened : directory.read path = .ok (signature ++ rest))
    (accepts : Machine.Accepts rest 0 count) :
    ∃ after, session.restore directory path = .ok () { session with machine := after } ∧
      after.snapshot = .ok (numbers (rest.take count)) := by
  have inFile := (accepts_append signature rest count).2 accepts
  obtain ⟨after, restored, taken⟩ := inFile.restore sized
  rw [List.drop_left] at taken
  refine ⟨after, ?_, taken⟩
  have signed : (signature ++ rest).take signature.length = signature := List.take_left
  rw [restore, readSnapshot_eq opened, if_neg (not_not_intro signed)]
  simp only [restored]

theorem restore_rejected (sized : session.machine.Sized) (opened : directory.read path = .ok file)
    (rejected : ¬ ∃ rest count, file = signature ++ rest ∧ Machine.Accepts rest 0 count) :
    ∃ fault, session.restore directory path = .error fault session ∧ fault.kind = .value := by
  by_cases signed : file.take signature.length = signature
  · have split := (List.take_append_drop signature.length file).symm
    rw [signed] at split
    have refused : ¬ ∃ count, Machine.Accepts file signature.length count := by
      rintro ⟨count, accepts⟩
      rw [split] at accepts
      exact rejected ⟨_, count, split, (accepts_append ..).1 accepts⟩
    obtain ⟨part, failed⟩ := Machine.restore_refused sized refused
    refine ⟨.truncated part, ?_, rfl⟩
    rw [restore, readSnapshot_eq opened, if_neg (not_not_intro signed)]
    simp only [failed]
  · refine ⟨.badSignature, ?_, rfl⟩
    rw [restore, readSnapshot_eq opened, if_pos signed]

end Session

namespace Machine

/-- Data are accepted exactly where there is a whole snapshot.  What is restored from it has the same
bytes for its snapshot, and no shorter piece of it is accepted.  In a file, the snapshot stands
behind a signature. -/
theorem snapshot_acceptance :
    (∀ (data : List UInt8) (offset : Nat) (target : Machine), target.Sized →
      (∀ count, Accepts data offset count →
        (∃ after, target.restore (numbers data) offset = .ok count after ∧
          after.snapshot = .ok (numbers ((data.drop offset).take count))) ∧
        ∀ cut < count, ∃ fault,
          target.restore (numbers (data.take (offset + cut))) offset = .error fault target ∧
            fault.kind = .value) ∧
      ((¬ ∃ count, Accepts data offset count) → ∃ fault,
        target.restore (numbers data) offset = .error fault target ∧ fault.kind = .value)) ∧
    ∀ (session : Session) (directory : Directory) (path : Path) (file : List UInt8),
      session.machine.Sized → directory.read path = .ok file →
        (∀ rest count, file = Session.signature ++ rest → Accepts rest 0 count →
          ∃ after, session.restore directory path = .ok () { session with machine := after } ∧
            after.snapshot = .ok (numbers (rest.take count))) ∧
        ((¬ ∃ rest count, file = Session.signature ++ rest ∧ Accepts rest 0 count) →
          ∃ fault, session.restore directory path = .error fault session ∧
            fault.kind = .value) := by
  refine ⟨fun data offset target sized => ?_, fun session directory path file sized opened => ?_⟩
  · refine ⟨fun count accepts => ⟨accepts.restore sized, fun cut shorter => ?_⟩, fun refused => ?_⟩
    · obtain ⟨part, failed⟩ := restore_refused sized (accepts.not_cut shorter)
      exact ⟨_, failed, rfl⟩
    · obtain ⟨part, failed⟩ := restore_refused sized refused
      exact ⟨_, failed, rfl⟩
  · refine ⟨?_, Session.restore_rejected sized opened⟩
    rintro rest count rfl accepts
    exact Session.restore_accepted sized opened accepts

/-- A power-on machine restored from nothing but zeros, and from no bytes at all. -/
theorem zeros_accepted :
    Accepts (List.replicate 4377 0) 0 4377 ∧ (¬ ∃ count, Accepts [] 0 count) ∧ initial.Sized ∧
      (∃ after, initial.restore (numbers (List.replicate 4377 0)) 0 = .ok 4377 after) ∧
      (∃ fault, initial.restore (numbers []) 0 = .error fault initial ∧ fault.kind = .value) ∧
      ∃ (session : Session) (directory : Directory) (path : Path),
        session.machine = initial ∧
        directory.read path = .ok (Session.signature ++ List.replicate 4377 0) ∧
        ∃ after, session.restore directory path = .ok () { session with machine := after } := by
  have accepts : Accepts (List.replicate 4377 0) 0 4377 :=
    ⟨0, List.getElem?_replicate_of_lt (by decide), rfl, Nat.le_of_eq List.length_replicate.symm⟩
  have refused : ¬ ∃ count, Accepts [] 0 count := by
    rintro ⟨count, depth, found, -⟩
    cases found
  have sized : initial.Sized := initial_wellFormed.sized
  have opened : (Directory.ofFiles [("s", Session.signature ++ List.replicate 4377 0)]).read
      ⟨.here, ["s"]⟩ = .ok (Session.signature ++ List.replicate 4377 0) := by
    have nameable : Path.nameable (Path.mk .here ["s"]).text = true := by
      rw [Path.nameable, String.contains_char_eq]
      decide
    have reached (directory : Directory) : directory.reach ⟨.here, ["s"]⟩ = .ok () := by
      rw [Directory.reach, nameable]
      rfl
    rw [Directory.read, reached]
    rfl
  obtain ⟨⟨after, restored, -⟩, -⟩ := (snapshot_acceptance.1 _ 0 initial sized).1 4377 accepts
  have rejected := (snapshot_acceptance.1 [] 0 initial sized).2 refused
  let session : Session :=
    { loadsFont := false
      cyclesPerFrame := 1
      machine := initial
      debugger := {}
      total := 0
      program := [] }
  obtain ⟨loaded, run, -⟩ :=
    (snapshot_acceptance.2 session _ _ _ sized opened).1 _ 4377 rfl accepts
  exact ⟨accepts, refused, sized, ⟨after, restored⟩, rejected, session, _, _, rfl, opened, loaded, run⟩

end Machine

end ChipEight
