import ChipEight.Slice
import ChipEight.Bits

namespace ChipEight

/-! Byte-addressable memory of a fixed size.

Every access is checked against the whole range it covers before a byte is
touched.  An access that leaves memory is a fault and never wraps, since a
wrapped access almost always means that the running program has gone astray.
-/

structure Memory where
  bytes : Array UInt8
deriving DecidableEq, Repr

namespace Memory

variable (memory : Memory)

def size : Nat := memory.bytes.size

def toList : List UInt8 := memory.bytes.toList

def zeroed (size : Nat) : Memory := ⟨Array.replicate size 0⟩

/-- More bytes than this are not to be had. -/
def mostBytes : Nat := 0x40000000

def ofSize (size : Int) : Except Fault Memory :=
  if !Signed.fits 64 size then .error .sizeTooLarge
  else if size < 0 then .error .negativeSize
  else if mostBytes < size then .error .noRoom
  else .ok (zeroed size.toNat)

/-- The range from `address` has to lie within memory; an empty one may stand at
its end, but not past it. -/
def covers (address length : Int) : Except Fault Unit :=
  if 0 ≤ address ∧ address + length ≤ memory.size then .ok ()
  else .error (.outsideMemory address length memory.size)

theorem covers_eq_ok_iff (address length : Int) :
    memory.covers address length = .ok () ↔ 0 ≤ address ∧ address + length ≤ memory.size := by
  simp [covers]

def byteAt (address : Nat) : UInt8 := memory.bytes.getD address 0

def read (address : Int) : Except Fault UInt8 := do
  memory.covers address 1
  return memory.byteAt address.toNat

/-- Two bytes, the high one first. -/
def readPair (address : Int) : Except Fault (UInt8 × UInt8) := do
  memory.covers address 2
  return (memory.byteAt address.toNat, memory.byteAt (address.toNat + 1))

def readBlock (address length : Int) : Except Fault (List UInt8) := do
  memory.covers address length
  let first := Slice.cut memory.size address
  let last := Slice.cut memory.size (address + length)
  return (memory.bytes.extract first last).toList

def write (address value : Int) : Except Fault Memory := do
  memory.covers address 1
  return ⟨memory.bytes.setIfInBounds address.toNat (Bits.lowByte value)⟩

def load (address : Int) (block : List UInt8) : Except Fault Memory := do
  memory.covers address block.length
  let first := address.toNat
  return ⟨memory.bytes.extract 0 first ++ block.toArray ++
    memory.bytes.extract (first + block.length) memory.size⟩

def clear : Memory := zeroed memory.size

theorem size_write {address value : Int} {after : Memory}
    (written : memory.write address value = .ok after) : after.size = memory.size := by
  unfold write covers at written
  split at written
  · simp only [bind, Except.bind, pure, Except.pure, Except.ok.injEq] at written
    subst after
    simp [size]
  · cases written

theorem size_load {address : Int} {block : List UInt8} {after : Memory}
    (loaded : memory.load address block = .ok after) : after.size = memory.size := by
  unfold load covers at loaded
  split at loaded
  · next within =>
    simp only [bind, Except.bind, pure, Except.pure, Except.ok.injEq] at loaded
    subst after
    simp only [size] at within ⊢
    simp
    omega
  · cases loaded

@[simp] theorem size_clear : memory.clear.size = memory.size := by simp [clear, zeroed, size]

def sum : Nat := memory.bytes.foldl (fun total byte => total + byte.toNat) 0

/-- The bytes a stepped slice visits. -/
def readSlice (start stop step : Option Int) : Except Fault (List UInt8) := do
  let places ← Slice.places memory.size start stop step
  return places.map memory.byteAt

/-- A slice is written only if it is contiguous and keeps its length. -/
def writeSlice (start stop step : Option Int) (block : List UInt8) :
    Except Fault Memory :=
  let first := start.getD 0
  if step.getD 1 ≠ 1 then .error .scatteredWrite
  else if stop.any fun last => last - first ≠ block.length then .error .resizingWrite
  else memory.load first block

end Memory

/-- Numbers as bytes, refused if one of them is none. -/
def bytesOf (values : List Int) : Except Fault (List UInt8) :=
  if values.all fun value => 0 ≤ value && value < 256 then
    .ok (values.map Bits.lowByte)
  else .error .notBytes

namespace Memory

def snapshot (memory : Memory) : List Int :=
  memory.toList.map fun byte => (byte.toNat : Int)

/-- All of memory from the numbers at `offset`. -/
def restore (memory : Memory) (data : List Int) (offset : Int) : Except Fault Memory := do
  let block ← bytesOf (Slice.window data offset (offset + memory.size))
  if block.length ≠ memory.size then throw (.truncated .memory)
  return ⟨block.toArray⟩

end Memory

end ChipEight
