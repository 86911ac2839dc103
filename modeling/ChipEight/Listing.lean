import ChipEight.Fault
import ChipEight.Font
import ChipEight.Instruction
import ChipEight.Slice

namespace ChipEight

/-! Program images as assembly listings.

An image is walked two bytes at a time.  A word that is no instruction is listed
as data, and so is a byte left over at the end; nothing is guessed at.
-/

open Text

structure Wording where
  mnemonic : String
  operands : String
  comment : String
deriving DecidableEq, Repr

def Wording.text (wording : Wording) : String :=
  if wording.operands = "" then wording.mnemonic
  else wording.mnemonic ++ " " ++ wording.operands

def registerName (x : Nibble) : String := "V" ++ hex 1 x.val

namespace Instruction

def targetText (target : Target) : String := "$" ++ hex 3 target.val

def withByte (x : Nibble) (byte : UInt8) : String := s!"{registerName x}, ${hexByte byte}"

def withRegister (x y : Nibble) : String := s!"{registerName x}, {registerName y}"

def glyphComment (target : Target) : String :=
  match Font.glyphAt? target.val with
  | some digit => "font glyph " ++ hex 1 digit
  | none => ""

end Instruction

namespace Listing

/-- The mnemonics of family 8, by the number of the operation. -/
def mnemonics : List (Nat × String) :=
  [(0x0, "LD"), (0x1, "OR"), (0x2, "AND"), (0x3, "XOR"), (0x4, "ADD"), (0x5, "SUB"), (0x6, "SHR"),
    (0x7, "SUBN"), (0xE, "SHL")]

open Instruction in
/-- The wording of any opcode that stands at `address`.  The first family has no other name than
that of the return; elsewhere an opcode that is no instruction has no wording. -/
def wordingOf (opcode address : Int) : Except Fault Wording :=
  let word := Word.ofInt opcode
  match word.family.val with
  | 0x0 => .ok (if opcode = clearOpcode then ⟨"CLS", "", ""⟩ else ⟨"RET", "", ""⟩)
  | 0x1 =>
      .ok ⟨"JP", targetText word.nnn, if word.nnn.val = address then "infinite loop" else ""⟩
  | 0x2 => .ok ⟨"CALL", targetText word.nnn, ""⟩
  | 0x3 => .ok ⟨"SE", withByte word.x word.nn, ""⟩
  | 0x4 => .ok ⟨"SNE", withByte word.x word.nn, ""⟩
  | 0x5 => .ok ⟨"SE", withRegister word.x word.y, ""⟩
  | 0x6 => .ok ⟨"LD", withByte word.x word.nn, ""⟩
  | 0x7 => .ok ⟨"ADD", withByte word.x word.nn, ""⟩
  | 0x8 =>
      match mnemonics.lookup word.n.val with
      | some mnemonic => .ok ⟨mnemonic, withRegister word.x word.y, ""⟩
      | none => .error (.noOperationListing word.n.val)
  | 0x9 => .ok ⟨"SNE", withRegister word.x word.y, ""⟩
  | 0xA => .ok ⟨"LD", "I, " ++ targetText word.nnn, glyphComment word.nnn⟩
  | 0xD => .ok ⟨"DRW", withRegister word.x word.y ++ s!", {word.n.val}", ""⟩
  | _ => .error (.noListing opcode)

structure Item where
  address : Int
  opcode : Nat
  wording : Wording
  bytes : List UInt8
deriving DecidableEq, Repr

def Item.size (item : Item) : Nat := item.bytes.length

def Item.text (item : Item) : String := item.wording.text

/-- A word has four digits and a lone byte two. -/
def Item.opcodeText (item : Item) : String :=
  "$" ++ hex (if item.size = 2 then 4 else 2) item.opcode

def Item.byteTexts (item : Item) : List String :=
  item.bytes.map fun byte => "$" ++ hexByte byte

/-- The address, the bytes in a column of five, the text, and the comment after a
column of sixteen. -/
def Item.line (item : Item) : String :=
  let bytes := padRight 5 (" ".intercalate (item.bytes.map hexByte))
  if item.wording.comment = "" then s!"{dollar item.address}: {bytes}  {item.text}"
  else s!"{dollar item.address}: {bytes}  {padRight 16 item.text} ; {item.wording.comment}"

def Item.shortLine (item : Item) : String :=
  if item.wording.comment = "" then s!"{dollar item.address}: {item.text}"
  else s!"{dollar item.address}: {item.text}  ; {item.wording.comment}"

/-- The item of two bytes.  The wording is asked for where they are an instruction. -/
def pairItem (address : Int) (high low : UInt8) : Except Fault Item := do
  let word := Word.ofBytes high low
  let wording ← if word.supported then wordingOf word.toNat address
    else .ok ⟨".WORD", dollar word.toNat, "unknown opcode"⟩
  return ⟨address, word.toNat, wording, [high, low]⟩

def Item.ofByte (address : Int) (byte : UInt8) : Item :=
  ⟨address, byte.toNat, ⟨".BYTE", "$" ++ hexByte byte, "incomplete instruction"⟩, [byte]⟩

/-- One item of an image, at any offset.  Two bytes are cut out as a window, so
that an offset from the end finds a pair only before the last two bytes. -/
def itemAt (image : List UInt8) (address offset : Int) : Except Fault Item :=
  if (image.length : Int) ≤ offset then .error (.offsetBeyond offset image.length)
  else if (image.length : Int) < offset + 2 then
    match Slice.window image offset image.length with
    | byte :: _ => .ok (.ofByte address byte)
    | [] => .error .byteOutside
  else
    match Slice.window image offset (offset + 2) with
    | [high, low] => pairItem address high low
    | _ => .error .byteOutside

/-- Whether a limit, if there is one, is used up. -/
def spent (limit : Option Int) (used : Int) : Bool := limit.any (· ≤ used)

/-- Lists what is left of an image behind `offset`, after the items that are listed already. -/
def itemsFrom (count maxBytes : Option Int) (address : Int) (offset : Nat) (listed : Array Item) :
    List UInt8 → Except Fault (List Item)
  | [] => .ok listed.toList
  | first :: rest =>
      if spent count listed.size || spent maxBytes offset then .ok listed.toList
      else
        match rest with
        | [] => .ok (listed.push (.ofByte address first)).toList
        | second :: rest =>
            match pairItem address first second with
            | .error fault => .error fault
            | .ok item =>
                itemsFrom count maxBytes (address + 2) (offset + 2) (listed.push item) rest

/-- At most `count` items of an image whose first byte is at `address`, and none that starts
`maxBytes` or more after it. -/
def disassemble (image : List UInt8) (address : Int) (count maxBytes : Option Int) :
    Except Fault (List Item) :=
  itemsFrom count maxBytes address 0 #[] image

def text (image : List UInt8) (address : Int) (count : Option Int) : Except Fault String := do
  return "\n".intercalate ((← disassemble image address count none).map Item.line)

end Listing

end ChipEight
