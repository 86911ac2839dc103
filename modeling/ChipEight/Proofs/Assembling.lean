import ChipEight.Proofs.Numerals
import ChipEight.Proofs.Wording

namespace ChipEight

open Text

/-! Reading an instruction back from its text.

One mnemonic may stand for several instructions, and then their operands look different.  So the
text up to its first space and the shape of what is behind it tell which one it is.
-/

/-- The shapes in which operands are written. -/
inductive Operands where
  | nothing
  | target (place : Target)
  | index (place : Target)
  | byte (x : Nibble) (value : UInt8)
  | pair (x y : Nibble)
  | sprite (x y rows : Nibble)
deriving DecidableEq, Repr

namespace Operands

def text : Operands → String
  | .nothing => ""
  | .target place => Instruction.targetText place
  | .index place => "I, " ++ Instruction.targetText place
  | .byte x value => Instruction.withByte x value
  | .pair x y => Instruction.withRegister x y
  | .sprite x y rows => Instruction.withRegister x y ++ s!", {rows.val}"

def below? (bound n : Nat) : Option (Fin bound) := if small : n < bound then some ⟨n, small⟩ else none

theorem below?_val {bound : Nat} (value : Fin bound) : below? bound value.val = some value := by
  rw [below?, dif_pos value.isLt]

/-- One digit names a register. -/
def register? (digit : Char) : Option Nibble := (digitValue? 16 digit).bind (below? 16)

def target? (digits : List Char) : Option Target := (number? 16 digits).bind (below? 0x1000)

def byte? (digits : List Char) : Option UInt8 := (number? 16 digits).map UInt8.ofNat

def rows? (digits : List Char) : Option Nibble := (number? 10 digits).bind (below? 16)

def ofChars? : List Char → Option Operands
  | [] => some .nothing
  | '$' :: digits => (target? digits).map .target
  | 'I' :: ',' :: ' ' :: '$' :: digits => (target? digits).map .index
  | 'V' :: x :: ',' :: ' ' :: '$' :: digits => do return .byte (← register? x) (← byte? digits)
  | ['V', x, ',', ' ', 'V', y] => do return .pair (← register? x) (← register? y)
  | 'V' :: x :: ',' :: ' ' :: 'V' :: y :: ',' :: ' ' :: digits => do
      return .sprite (← register? x) (← register? y) (← rows? digits)
  | _ => none

def digit (x : Nibble) : Char := (Nat.digitChar x.val).toUpper

theorem register?_digit (x : Nibble) : register? (digit x) = some x := by
  rw [register?, digit, digitValue?_hex x.val x.isLt, Option.bind_some, below?_val]

theorem target?_hex (place : Target) : target? (hex 3 place.val).toList = some place := by
  rw [target?, number?_hex, Option.bind_some, below?_val]

theorem byte?_hex (value : UInt8) : byte? (hex 2 value.toNat).toList = some value := by
  rw [byte?, number?_hex, Option.map_some, UInt8.ofNat_toNat]

theorem rows?_toString (rows : Nibble) : rows? (toString rows.val).toList = some rows := by
  rw [rows?, number?_toString, Option.bind_some, below?_val]

theorem toList_registerName (x : Nibble) : (registerName x).toList = ['V', digit x] := by
  rw [registerName, String.toList_append, toList_hex_one x.isLt]
  rfl

theorem toList_targetText (place : Target) :
    (Instruction.targetText place).toList = '$' :: (hex 3 place.val).toList := by
  rw [Instruction.targetText, String.toList_append]
  rfl

theorem toList_withByte (x : Nibble) (value : UInt8) :
    (Instruction.withByte x value).toList =
      'V' :: digit x :: ',' :: ' ' :: '$' :: (hex 2 value.toNat).toList := by
  change (registerName x ++ ", $" ++ hexByte value).toList = _
  simp only [String.toList_append, toList_registerName]
  rfl

theorem toList_withRegister (x y : Nibble) :
    (Instruction.withRegister x y).toList = ['V', digit x, ',', ' ', 'V', digit y] := by
  change (registerName x ++ ", " ++ registerName y).toList = _
  simp only [String.toList_append, toList_registerName]
  rfl

theorem toList_withRows (x y rows : Nibble) :
    (Instruction.withRegister x y ++ s!", {rows.val}").toList =
      'V' :: digit x :: ',' :: ' ' :: 'V' :: digit y :: ',' :: ' ' :: (toString rows.val).toList := by
  change (Instruction.withRegister x y ++ (", " ++ toString rows.val)).toList = _
  simp only [String.toList_append, toList_withRegister]
  rfl

theorem ofChars?_text (operands : Operands) : ofChars? operands.text.toList = some operands := by
  cases operands with
  | nothing => simp [text, ofChars?]
  | target place =>
      simp only [text, toList_targetText, ofChars?, target?_hex]
      rfl
  | index place =>
      simp [text, toList_targetText, String.toList_append, ofChars?, target?_hex]
  | byte x value =>
      simp only [text, toList_withByte, ofChars?, register?_digit, byte?_hex]
      rfl
  | pair x y =>
      simp only [text, toList_withRegister, ofChars?, register?_digit]
      rfl
  | sprite x y rows =>
      simp only [text, toList_withRows, ofChars?, register?_digit, rows?_toString]
      rfl

end Operands

namespace Instruction

def mnemonic : Instruction → String
  | .clear => "CLS"
  | .ret => "RET"
  | .jump _ => "JP"
  | .call _ => "CALL"
  | .skipIfByte .. | .skipIfSame .. => "SE"
  | .skipUnlessByte .. | .skipUnlessSame .. => "SNE"
  | .load .. | .point _ => "LD"
  | .add .. => "ADD"
  | .operate operation _ _ => operation.mnemonic
  | .draw .. => "DRW"

def operands : Instruction → Operands
  | .clear | .ret => .nothing
  | .jump place | .call place => .target place
  | .point place => .index place
  | .skipIfByte x value | .skipUnlessByte x value | .load x value | .add x value => .byte x value
  | .skipIfSame x y | .skipUnlessSame x y | .operate _ x y => .pair x y
  | .draw x y rows => .sprite x y rows

/-- The instruction of a mnemonic, where its operands have the right shape. -/
def assemble? : String → Operands → Option Instruction
  | "CLS", .nothing => some .clear
  | "RET", .nothing => some .ret
  | "JP", .target place => some (.jump place)
  | "CALL", .target place => some (.call place)
  | "SE", .byte x value => some (.skipIfByte x value)
  | "SE", .pair x y => some (.skipIfSame x y)
  | "SNE", .byte x value => some (.skipUnlessByte x value)
  | "SNE", .pair x y => some (.skipUnlessSame x y)
  | "LD", .byte x value => some (.load x value)
  | "LD", .pair x y => some (.operate .copy x y)
  | "LD", .index place => some (.point place)
  | "ADD", .byte x value => some (.add x value)
  | "ADD", .pair x y => some (.operate .add x y)
  | "OR", .pair x y => some (.operate .or x y)
  | "AND", .pair x y => some (.operate .and x y)
  | "XOR", .pair x y => some (.operate .xor x y)
  | "SUB", .pair x y => some (.operate .sub x y)
  | "SHR", .pair x y => some (.operate .shiftRight x y)
  | "SUBN", .pair x y => some (.operate .subFrom x y)
  | "SHL", .pair x y => some (.operate .shiftLeft x y)
  | "DRW", .sprite x y rows => some (.draw x y rows)
  | _, _ => none

theorem assemble?_parts (instruction : Instruction) :
    assemble? instruction.mnemonic instruction.operands = some instruction := by
  cases instruction with
  | operate operation x y => cases operation <;> rfl
  | _ => rfl

theorem wording_parts (instruction : Instruction) (address : Int) :
    (instruction.wording address).mnemonic = instruction.mnemonic ∧
      (instruction.wording address).operands = instruction.operands.text := by
  cases instruction <;> exact ⟨rfl, rfl⟩

theorem mnemonic_plain (instruction : Instruction) :
    ∀ c ∈ instruction.mnemonic.toList, (c != ' ') = true := by
  cases instruction with
  | operate operation x y => cases operation <;> simp [mnemonic, Operation.mnemonic]
  | _ => simp [mnemonic]

/-- The part before the first space, and the part behind it. -/
def cut (text : List Char) : List Char × List Char :=
  (text.takeWhile (· != ' '), (text.dropWhile (· != ' ')).drop 1)

theorem cut_plain {name : List Char} (plain : ∀ c ∈ name, (c != ' ') = true) :
    cut name = (name, []) := by
  have before : (name ++ []).takeWhile (· != ' ') = name ++ [] := List.takeWhile_append_of_pos plain
  have behind : (name ++ []).dropWhile (· != ' ') = [] := List.dropWhile_append_of_pos plain
  rw [List.append_nil] at before behind
  rw [cut, before, behind]
  rfl

theorem cut_append {name : List Char} (plain : ∀ c ∈ name, (c != ' ') = true) (rest : List Char) :
    cut (name ++ ' ' :: rest) = (name, rest) := by
  rw [cut, List.takeWhile_append_of_pos plain, List.dropWhile_append_of_pos plain]
  simp

theorem cut_text (instruction : Instruction) (address : Int) :
    cut (instruction.wording address).text.toList =
      (instruction.mnemonic.toList, instruction.operands.text.toList) := by
  obtain ⟨mnemonic, operands⟩ := instruction.wording_parts address
  have plain := instruction.mnemonic_plain
  simp only [Wording.text, mnemonic, operands]
  split
  · next empty =>
    rw [cut_plain plain, empty]
    rfl
  · rw [← cut_append plain, String.toList_append, String.toList_append, List.append_assoc]
    rfl

/-- Reads the text of a listing, without its comment. -/
def ofText? (text : String) : Option Instruction := do
  let (mnemonic, rest) := cut text.toList
  assemble? (String.ofList mnemonic) (← Operands.ofChars? rest)

theorem ofText?_wording (instruction : Instruction) (address : Int) :
    ofText? (instruction.wording address).text = some instruction := by
  simp only [ofText?, cut_text, Operands.ofChars?_text, String.ofList_toList]
  exact instruction.assemble?_parts

end Instruction

end ChipEight
