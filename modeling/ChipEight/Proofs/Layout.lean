import ChipEight.Proofs.Packing

namespace ChipEight

/-! The parts of a snapshot, and the machine that is restored from them.

A snapshot may stand anywhere in a longer row.  The numbers of its words are kept
apart here, so that a machine and any row of bytes can both be laid out like this.
-/

variable {before after : List Int}

theorem Memory.restore_append {memory : Memory} {block : List UInt8}
    (length : block.length = memory.size) :
    memory.restore (before ++ (numbers block ++ after)) before.length = .ok ⟨block.toArray⟩ := by
  have window := Slice.window_append before (numbers block) after
  rw [length_numbers, length] at window
  simp only [restore, window, bytesOf_numbers, ok_bind, length]
  simp

namespace Machine

structure Sized (machine : Machine) : Prop where
  memory : machine.memory.size = memorySize
  screen : machine.screen.Standard

theorem WellFormed.sized {machine : Machine} (formed : machine.WellFormed) : machine.Sized :=
  ⟨formed.memory, formed.width, formed.height, formed.rows, formed.columns⟩

/-- A snapshot up to the depth of the stack; a word is kept as its two numbers. -/
structure Front where
  pc : Int × Int
  index : Int × Int
  opcode : Int × Int
  delay : Int
  sound : Int
  registers : List UInt8
  count : registers.length = registerCount
  depth : Nat

namespace Front

variable (front : Front)

def scalars : List Int :=
  [front.pc.1, front.pc.2, front.index.1, front.index.2, front.opcode.1, front.opcode.2,
    front.delay, front.sound]

def row : List Int := front.scalars ++ (numbers front.registers ++ [(front.depth : Int)])

def header (entries : List Int) : Header where
  pc := paired front.pc.1 front.pc.2
  index := paired front.index.1 front.index.2
  opcode := paired front.opcode.1 front.opcode.2
  delay := front.delay
  sound := front.sound
  registers := front.registers
  depth := front.depth
  entries := entries

theorem length_scalars : front.scalars.length = 8 := rfl

@[simp] theorem length_row : front.row.length = headerSize := by
  simp only [row, scalars, List.length_append, length_numbers, front.count]
  rfl

end Front

/-- Whatever stands after the front, all of it but the entries is read. -/
theorem Header.read_front (front : Front) (rest : List Int) :
    Header.read (before ++ (front.row ++ rest)) before.length =
      if rest.length < 2 * front.depth then .error (.truncated .stack)
      else do
        let entries ← pairsAt (before ++ (front.row ++ rest)) (before.length + headerSize) front.depth
        return front.header entries := by
  obtain ⟨data, layout⟩ : ∃ data, data = before ++ (front.row ++ rest) := ⟨_, rfl⟩
  have total : (data.length : Int) = before.length + headerSize + rest.length := by
    rw [layout, List.length_append, List.length_append, Front.length_row]
    omega
  have pc : pairAt data before.length = .ok (paired front.pc.1 front.pc.2) :=
    layout ▸ pairAt_here ..
  have index : pairAt data (before.length + 2) = .ok (paired front.index.1 front.index.2) :=
    layout ▸ pairAt_append 2 rfl rfl
  have opcode : pairAt data (before.length + 4) = .ok (paired front.opcode.1 front.opcode.2) :=
    layout ▸ pairAt_append 4 rfl rfl
  have delay : Slice.element data (before.length + 6) = .ok front.delay :=
    layout ▸ Slice.element_append 6 rfl
  have sound : Slice.element data (before.length + 7) = .ok front.sound :=
    layout ▸ Slice.element_append 7 rfl
  have registers : Slice.window data (before.length + 8) (before.length + 8 + registerCount) =
      numbers front.registers := by
    have block := Slice.window_append (before ++ front.scalars) (numbers front.registers)
      ((front.depth : Int) :: rest)
    rw [length_numbers, front.count, List.length_append] at block
    rw [layout]
    simpa [Front.row, Front.length_scalars] using block
  have depth : Slice.element data (before.length + 8 + registerCount) = .ok (front.depth : Int) := by
    have number : Slice.element ((before ++ front.scalars ++ numbers front.registers) ++
        (front.depth : Int) :: rest) _ = _ := Slice.element_here _
    rw [layout]
    simpa [Front.row, Front.length_scalars, front.count, Int.add_assoc] using number
  rw [← layout]
  have long : ¬ (data.length : Int) - before.length < headerSize := by omega
  simp only [Header.read, if_neg long, pc, index, opcode, delay, sound, registers, bytesOf_numbers,
    depth, ok_bind, Int.toNat_natCast]
  by_cases short : rest.length < 2 * front.depth
  · rw [if_pos short, if_pos (by omega)]
    rfl
  · rw [if_neg short, if_neg (by omega)]
    rfl

theorem Header.read_entries (front : Front) {frames : List Int}
    (framed : frames.length = 2 * front.depth) (rest : List Int) :
    Header.read (before ++ (front.row ++ (frames ++ rest))) before.length =
      .ok (front.header (pairs frames)) := by
  have long : ¬ (frames ++ rest).length < 2 * front.depth := by
    rw [List.length_append, framed]
    omega
  have entries : pairsAt ((before ++ front.row) ++ (frames ++ rest)) (before ++ front.row).length
      front.depth = .ok (pairs frames) := pairsAt_append framed
  rw [List.append_assoc, List.length_append, Front.length_row, Int.natCast_add] at entries
  rw [Header.read_front, if_neg long, entries]
  rfl

theorem Front.size_header (front : Front) (entries : List Int) :
    (front.header entries).size = 25 + 2 * front.depth := by
  change (25 : Int) + front.depth * 2 = _
  omega

/-- A whole snapshot: what follows its front are the entries of the stack, two numbers
for each, memory, and the picture. -/
structure Layout extends Front where
  frames : List Int
  memory : List UInt8
  picture : List Int
  framed : frames.length = 2 * depth
  filled : memory.length = memorySize
  shown : picture.length = 0x100

namespace Layout

variable (layout : Layout)

def row : List Int :=
  layout.toFront.row ++ (layout.frames ++ (numbers layout.memory ++ layout.picture))

/-- The machine that a snapshot describes.  Of the machine it is restored to, only the
extent of the screen remains. -/
def restored (target : Machine) : Machine where
  pc := paired layout.pc.1 layout.pc.2
  index := paired layout.index.1 layout.index.2
  opcode := paired layout.opcode.1 layout.opcode.2
  delay := layout.delay
  sound := layout.sound
  registers := layout.registers
  stack := (pairs layout.frames).reverse
  memory := ⟨layout.memory.toArray⟩
  screen := target.screen.filled layout.picture
  updated := false

theorem length_row : layout.row.length = 25 + 2 * layout.depth + 0x1000 + 0x100 := by
  simp only [row, List.length_append, Front.length_row, length_numbers, layout.framed,
    layout.filled, layout.shown]
  simp only [headerSize, registerCount, memorySize]
  omega

end Layout

theorem Sized.restore_layout {target : Machine} (sized : target.Sized) (layout : Layout) :
    target.restore (before ++ (layout.row ++ after)) before.length =
      .ok layout.row.length (layout.restored target) := by
  obtain ⟨data, joined⟩ : ∃ data, data = before ++ (layout.row ++ after) := ⟨_, rfl⟩
  obtain ⟨head, front⟩ : ∃ head, head = before ++ (layout.toFront.row ++ layout.frames) := ⟨_, rfl⟩
  have parts : data = head ++ (numbers layout.memory ++ (layout.picture ++ after)) := by
    simp [joined, front, Layout.row]
  have header : Header.read data before.length =
      .ok (layout.toFront.header (pairs layout.frames)) := by
    simpa [parts, front] using
      Header.read_entries layout.toFront layout.framed
        (numbers layout.memory ++ (layout.picture ++ after))
  have blocks : (before.length : Int) + (25 + 2 * layout.depth) = head.length := by
    simp only [front, List.length_append, Front.length_row, layout.framed, headerSize, registerCount]
    omega
  have length : data.length = head.length + 0x1000 + 0x100 + after.length := by
    simp only [parts, List.length_append, length_numbers, layout.filled, layout.shown, memorySize]
    omega
  have room : ¬ (data.length : Int) - head.length < (0x1000 : Nat) + 0x100 := by omega
  have memory : target.memory.restore data head.length = .ok ⟨layout.memory.toArray⟩ :=
    parts ▸ Memory.restore_append (layout.filled.trans sized.memory.symm)
  have screen : target.screen.restore data (head.length + (0x1000 : Nat)) =
      .ok 0x100 (target.screen.filled layout.picture) := by
    have block : target.screen.restore
        ((head ++ numbers layout.memory) ++ (layout.picture ++ after))
        (head ++ numbers layout.memory).length = _ := sized.screen.restore_append layout.shown
    rw [List.append_assoc, ← parts, List.length_append, length_numbers, layout.filled,
      Int.natCast_add] at block
    exact block
  have written : (Memory.mk layout.memory.toArray).size = 0x1000 := layout.filled
  have targetSize : target.memory.size = 0x1000 := sized.memory
  rw [← joined, restore, header]
  simp only [Front.size_header, blocks, targetSize, sized.screen.packedSize_eq, if_neg room, memory, written,
    screen, layout.length_row]
  congr 1

end Machine

end ChipEight
