import ChipEight.Word

namespace ChipEight

/-! The instructions of the machine and the words that encode them.

The first family holds two single words and nothing else.  In all others the
fields are operands, and the last nibble of families 5 and 9 is not looked at.
Families B, C, E and F are not part of the machine.
-/

/-- Register-to-register operations, selected by the last nibble of family 8. -/
inductive Operation where
  | copy
  | or
  | and
  | xor
  | add
  | sub
  | shiftRight
  | subFrom
  | shiftLeft
deriving DecidableEq, Repr

inductive Instruction where
  | clear
  | ret
  | jump (target : Target)
  | call (target : Target)
  | skipIfByte (x : Nibble) (byte : UInt8)
  | skipUnlessByte (x : Nibble) (byte : UInt8)
  | skipIfSame (x y : Nibble)
  | load (x : Nibble) (byte : UInt8)
  | add (x : Nibble) (byte : UInt8)
  | operate (operation : Operation) (x y : Nibble)
  | skipUnlessSame (x y : Nibble)
  | point (target : Target)
  | draw (x y rows : Nibble)
deriving DecidableEq, Repr

namespace Instruction

def clearOpcode : Int := 0x00E0

def returnOpcode : Int := 0x00EE

/-- The last nibbles of family 8 that select an operation. -/
def operations : List Nat := [0x0, 0x1, 0x2, 0x3, 0x4, 0x5, 0x6, 0x7, 0xE]

/-- The families whose words are all instructions. -/
def simpleFamilies : List Nat := [0x1, 0x2, 0x3, 0x4, 0x5, 0x6, 0x7, 0x9, 0xA, 0xD]

end Instruction

/-- Whether the machine has an instruction for a word. -/
def Word.supported (word : Word) : Bool :=
  if word.family.val = 0x0 then
    [Instruction.clearOpcode, Instruction.returnOpcode].contains (word.toNat : Int)
  else if word.family.val = 0x8 then Instruction.operations.contains word.n.val
  else Instruction.simpleFamilies.contains word.family.val

end ChipEight
