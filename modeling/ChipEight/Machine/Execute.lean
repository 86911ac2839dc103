import ChipEight.Machine
import ChipEight.Screen.Sprite

namespace ChipEight

/-! What each instruction does.

The program counter has already moved past the instruction when it takes effect.
A fault leaves nothing behind, since every operand is read before the first
write.
-/

/-- The result of an operation on two registers, and the flag if it sets one. -/
def Operation.apply (operation : Operation) (left right : UInt8) : UInt8 × Option Bool :=
  match operation with
  | .copy => (right, none)
  | .or => (left ||| right, none)
  | .and => (left &&& right, none)
  | .xor => (left ^^^ right, none)
  | .add => (left + right, some (255 < left.toNat + right.toNat))
  | .sub => (left - right, some (right ≤ left))
  | .shiftRight => (left / 2, some (left % 2 = 1))
  | .subFrom => (right - left, some (left ≤ right))
  | .shiftLeft => (left + left, some (128 ≤ left))

namespace Machine

variable (machine : Machine)

def skipWhen (condition : Bool) : Machine :=
  if condition then machine.setPc (machine.pc + 2) else machine

def setFlag (value : Bool) : Except Fault Machine :=
  machine.setRegister flagRegister (if value then 1 else 0)

/-- The flag is written last, so it wins where it is the target too. -/
def operate (operation : Operation) (x y : Nibble) : Except Fault Machine := do
  let left ← machine.register x
  let right ← machine.register y
  let (result, flag) := operation.apply left right
  let after ← machine.setRegister x result
  match flag with
  | some value => after.setFlag value
  | none => return after

/-- The rows of a sprite at row `y` that are above the bottom edge. -/
def visibleRows (rows : Nat) (y : UInt8) : Nat :=
  min rows (machine.screen.height.toNat - Screen.wrapped machine.screen.height y.toNat)

/-- Rows below the bottom edge are not read from memory. -/
def drawSprite (x y : Nibble) (rows : Nat) : Except Fault Machine := do
  let top ← machine.register y
  let sprite ← machine.memory.readBlock machine.index (machine.visibleRows rows top)
  let left ← machine.register x
  let (collision, screen) ← machine.screen.draw left.toNat top.toNat sprite
  let after ← machine.setFlag collision
  return { after with screen, updated := true }

def execute : Instruction → Except Fault Machine
  | .clear => .ok { machine with screen := machine.screen.clear, updated := true }
  | .ret =>
      match machine.stack with
      | [] => .error .nothingToReturnTo
      | address :: rest => .ok ({ machine with stack := rest }.setPc address)
  | .jump target => .ok (machine.setPc target.val)
  | .call target => .ok ((machine.push machine.pc).setPc target.val)
  | .skipIfByte x byte => do return machine.skipWhen ((← machine.register x) == byte)
  | .skipUnlessByte x byte => do return machine.skipWhen ((← machine.register x) != byte)
  | .skipIfSame x y => do
      let left ← machine.register x
      let right ← machine.register y
      return machine.skipWhen (left == right)
  | .load x byte => machine.setRegister x byte
  | .add x byte => do machine.setRegister x ((← machine.register x) + byte)
  | .operate operation x y => machine.operate operation x y
  | .skipUnlessSame x y => do
      let left ← machine.register x
      let right ← machine.register y
      return machine.skipWhen (left != right)
  | .point target => .ok (machine.setIndex target.val)
  | .draw x y rows => machine.drawSprite x y rows.val

/-- Executes a word of family 8, by the number of its operation.  Both registers are read before
the number is looked at. -/
def performOperation (number x y : Nibble) (opcode : Int) : Except Fault Machine := do
  discard (machine.register x)
  discard (machine.register y)
  match number.val with
  | 0x0 => machine.execute (.operate .copy x y)
  | 0x1 => machine.execute (.operate .or x y)
  | 0x2 => machine.execute (.operate .and x y)
  | 0x3 => machine.execute (.operate .xor x y)
  | 0x4 => machine.execute (.operate .add x y)
  | 0x5 => machine.execute (.operate .sub x y)
  | 0x6 => machine.execute (.operate .shiftRight x y)
  | 0x7 => machine.execute (.operate .subFrom x y)
  | 0xE => machine.execute (.operate .shiftLeft x y)
  | _ => throw (.unknownOpcode opcode (machine.pc - 2))

/-- Executes any opcode, without a fetch, a check or a tick of the timers.  Only its low sixteen
bits carry fields; the two single words of the first family are matched as they stand. -/
def perform (opcode : Int) : Except Fault Machine :=
  let word := Word.ofInt opcode
  match word.family.val with
  | 0x0 =>
      if opcode = Instruction.clearOpcode then machine.execute .clear
      else if opcode = Instruction.returnOpcode then machine.execute .ret
      else .error (.unknownOpcode opcode (machine.pc - 2))
  | 0x1 => machine.execute (.jump word.nnn)
  | 0x2 => machine.execute (.call word.nnn)
  | 0x3 => machine.execute (.skipIfByte word.x word.nn)
  | 0x4 => machine.execute (.skipUnlessByte word.x word.nn)
  | 0x5 => machine.execute (.skipIfSame word.x word.y)
  | 0x6 => machine.execute (.load word.x word.nn)
  | 0x7 => machine.execute (.add word.x word.nn)
  | 0x8 => machine.performOperation word.n word.x word.y opcode
  | 0x9 => machine.execute (.skipUnlessSame word.x word.y)
  | 0xA => machine.execute (.point word.nnn)
  | 0xD => machine.execute (.draw word.x word.y word.n)
  | _ => .error (.unknownOpcode opcode (machine.pc - 2))

end Machine

end ChipEight
