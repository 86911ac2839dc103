import ChipEight.Machine
import ChipEight.Proofs.Result

namespace ChipEight

/-! What stands in memory after blocks have been copied into it, and how it is read again. -/

namespace Memory

variable {memory after other : Memory}

theorem byteAt_zeroed (size place : Nat) : (zeroed size).byteAt place = 0 := by
  simp only [byteAt, zeroed, Array.getD_eq_getD_getElem?, Array.getElem?_replicate]
  split <;> rfl

theorem load_eq_ok {address : Nat} {block : List UInt8}
    (room : address + block.length ≤ memory.size) :
    ∃ after, memory.load address block = .ok after := by
  have covered : memory.covers address block.length = .ok () :=
    (memory.covers_eq_ok_iff ..).2 (by omega)
  exact ⟨_, by rw [load, covered, ok_bind]; rfl⟩

theorem byteAt_load {address : Nat} {block : List UInt8}
    (loaded : memory.load address block = .ok after) (place : Nat) :
    after.byteAt place =
      if address ≤ place ∧ place < address + block.length then block.getD (place - address) 0
      else memory.byteAt place := by
  simp only [load, bind_eq_ok_iff] at loaded
  obtain ⟨_, covered, result⟩ := loaded
  have room := ((memory.covers_eq_ok_iff ..).1 covered).2
  cases result
  rw [Int.toNat_natCast]
  simp only [byteAt, size, Array.getD_eq_getD_getElem?, List.getD_eq_getElem?_getD] at room ⊢
  have below : (memory.bytes.extract 0 address).size = address := by
    rw [Array.size_extract]
    omega
  have upTo : (memory.bytes.extract 0 address ++ block.toArray).size = address + block.length := by
    rw [Array.size_append, below, List.size_toArray]
  split
  · next inside =>
    rw [Array.getElem?_append_left (by omega), Array.getElem?_append_right (by omega), below,
      List.getElem?_toArray]
  · next outside =>
    by_cases before : place < address
    · rw [Array.getElem?_append_left (by omega), Array.getElem?_append_left (by omega),
        Array.getElem?_extract, if_pos (by omega), Nat.zero_add]
    · rw [Array.getElem?_append_right (by omega), upTo, Array.getElem?_extract]
      split
      · congr 2
        omega
      · rw [Array.getElem?_eq_none (by omega)]

theorem size_zeroed (size : Nat) : (zeroed size).size = size := by simp [Memory.size, zeroed]

/-- The bytes from an address on, with zeros beyond the end of memory. -/
def blockAt (memory : Memory) (address count : Nat) : List UInt8 :=
  (List.range count).map fun place => memory.byteAt (address + place)

theorem length_blockAt (memory : Memory) (address count : Nat) :
    (memory.blockAt address count).length = count := by
  rw [blockAt, List.length_map, List.length_range]

theorem getElem?_blockAt (memory : Memory) (address count place : Nat) :
    (memory.blockAt address count)[place]? =
      if place < count then some (memory.byteAt (address + place)) else none := by
  rw [blockAt, List.getElem?_map]
  split
  · next inside => rw [List.getElem?_range inside, Option.map_some]
  · next beyond => rw [List.getElem?_eq_none (by simpa using beyond), Option.map_none]

theorem take_blockAt (memory : Memory) (address count shorter : Nat) :
    (memory.blockAt address count).take shorter = memory.blockAt address (min shorter count) := by
  rw [blockAt, ← List.map_take, List.take_range, blockAt]

theorem blockAt_congr {address count : Nat}
    (same : ∀ place < count, other.byteAt (address + place) = memory.byteAt (address + place)) :
    other.blockAt address count = memory.blockAt address count :=
  List.map_congr_left fun place member => same place (List.mem_range.1 member)

theorem getElem?_toList {place : Nat} (inside : place < memory.size) :
    memory.toList[place]? = some (memory.byteAt place) := by
  change place < memory.bytes.size at inside
  rw [toList, Array.getElem?_toList, byteAt, Array.getD_eq_getD_getElem?,
    Array.getElem?_eq_getElem inside, Option.getD_some]

/-- A piece cut out of memory, which ends where memory does. -/
theorem toList_extract (memory : Memory) (first last : Nat) :
    (memory.bytes.extract first last).toList =
      memory.blockAt first (min last memory.size - first) := by
  apply List.ext_getElem?
  intro place
  have whole : memory.bytes.size = memory.size := rfl
  rw [getElem?_blockAt, Array.getElem?_toList, Array.getElem?_extract, whole]
  split
  · rw [← Array.getElem?_toList]
    exact getElem?_toList (by omega)
  · rfl

theorem readBlock_within {address : Int} {count : Nat} (low : 0 ≤ address)
    (within : address + count ≤ memory.size) :
    memory.readBlock address count = .ok (memory.blockAt address.toNat count) := by
  have covered := (memory.covers_eq_ok_iff address count).2 ⟨low, within⟩
  have first : Slice.cut memory.size address = address.toNat := by
    unfold Slice.cut
    omega
  have last : Slice.cut memory.size (address + count) = address.toNat + count := by
    unfold Slice.cut
    omega
  have whole : min (address.toNat + count) memory.size - address.toNat = count := by omega
  simp only [readBlock, covered, ok_bind, first, last, pure_eq_ok, toList_extract, whole]

theorem readBlock_outside {address count : Int}
    (outside : ¬ (0 ≤ address ∧ address + count ≤ memory.size)) :
    memory.readBlock address count = .error (.outsideMemory address count memory.size) := by
  rw [readBlock, covers, if_neg outside, error_bind]

end Memory

namespace Machine

variable {memory : Memory}

theorem initial_wellFormed : initial.WellFormed where
  pc := by decide
  index := by decide
  delay := by decide
  sound := by decide
  registers := rfl
  memory := Memory.size_zeroed _
  width := rfl
  height := rfl
  rows := rfl
  columns := by
    intro row member
    rw [List.eq_of_mem_replicate member]
    rfl

/-- The state after power-on with something in memory. -/
def powered (memory : Memory) : Machine := { initial with memory }

theorem powered_wellFormed (size : memory.size = memorySize) : (powered memory).WellFormed :=
  { initial_wellFormed with memory := size }

/-- A fresh machine, with a font if there is one. -/
def lettered : Option (List UInt8) → Except Fault Machine
  | none => .ok initial
  | some glyphs => initial.loadFont (some glyphs)

/-- A fresh machine with a font, if there is one, and a program. -/
def loaded (font : Option (List UInt8)) (program : List UInt8) : Except Fault Machine := do
  (← lettered font).loadProgram program

def fontByte (font : Option (List UInt8)) (address : Nat) : UInt8 :=
  match font with
  | some glyphs =>
      if Font.start ≤ address ∧ address < Font.start + Font.size then
        glyphs.getD (address - Font.start) 0
      else 0
  | none => 0

def imageByte (font : Option (List UInt8)) (program : List UInt8) (address : Nat) : UInt8 :=
  if programStart ≤ address ∧ address < programStart + program.length then
    program.getD (address - programStart) 0
  else fontByte font address

theorem store_ok (machine : Machine) {address : Nat} {block : List UInt8}
    (room : address + block.length ≤ machine.memory.size) :
    ∃ memory, machine.store address block = .ok { machine with memory } ∧
      memory.size = machine.memory.size ∧
      ∀ place, memory.byteAt place =
        if address ≤ place ∧ place < address + block.length then block.getD (place - address) 0
        else machine.memory.byteAt place := by
  obtain ⟨memory, copied⟩ := Memory.load_eq_ok room
  refine ⟨memory, ?_, Memory.size_load _ copied, Memory.byteAt_load copied⟩
  rw [store, copied]
  rfl

theorem lettered_ok {font : Option (List UInt8)}
    (glyphs : ∀ table, font = some table → table.length = Font.size) :
    ∃ memory, lettered font = .ok (powered memory) ∧ memory.size = memorySize ∧
      ∀ place, memory.byteAt place = fontByte font place := by
  cases font with
  | none =>
      exact ⟨.zeroed memorySize, rfl, Memory.size_zeroed _, fun place => Memory.byteAt_zeroed ..⟩
  | some table =>
      have length := glyphs table rfl
      have size : initial.memory.size = memorySize := Memory.size_zeroed _
      have room : Font.start + table.length ≤ initial.memory.size := by
        rw [size, length]
        decide
      obtain ⟨memory, stored, same, bytes⟩ := initial.store_ok room
      refine ⟨memory, ?_, same.trans size, fun place => ?_⟩
      · simp only [lettered, loadFont, if_pos length, stored]
        rfl
      · rw [bytes, length, fontByte, initial, Memory.byteAt_zeroed]

theorem loaded_ok (font : Option (List UInt8)) (program : List UInt8)
    (glyphs : ∀ table, font = some table → table.length = Font.size)
    (room : program.length ≤ programRoom) :
    ∃ memory, loaded font program = .ok (powered memory) ∧ memory.size = memorySize ∧
      ∀ place, memory.byteAt place = imageByte font program place := by
  obtain ⟨before, fonted, size, letters⟩ := lettered_ok glyphs
  have enough : programStart + program.length ≤ (powered before).memory.size := by
    change _ ≤ before.size
    simp only [programRoom, memorySize, programStart] at room size ⊢
    omega
  obtain ⟨memory, stored, same, bytes⟩ := (powered before).store_ok enough
  refine ⟨memory, ?_, same.trans size, fun place => ?_⟩
  · simp only [loaded, fonted, ok_bind, loadProgram, if_neg (Nat.not_lt.2 room), stored]
    rfl
  · rw [bytes, powered, letters, imageByte]

end Machine

end ChipEight
