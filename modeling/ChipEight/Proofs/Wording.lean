import ChipEight.Listing
import ChipEight.Proofs.Decoding

namespace ChipEight

/-! What a listing says of each instruction.

The wording of words is a table of its own, which has an end without an answer, and so has the table
of mnemonics within it.  No word that is an instruction comes to either, so that the items of an
image can be told without a fault.
-/

open Text Listing

def Operation.mnemonic : Operation → String
  | .copy => "LD"
  | .or => "OR"
  | .and => "AND"
  | .xor => "XOR"
  | .add => "ADD"
  | .sub => "SUB"
  | .shiftRight => "SHR"
  | .subFrom => "SUBN"
  | .shiftLeft => "SHL"

/-- The table of mnemonics has the numbers of all operations, and no others. -/
theorem Operation.lookup_mnemonics (nibble : Nibble) :
    mnemonics.lookup nibble.val = (ofNibble? nibble).map mnemonic := by
  revert nibble
  decide

namespace Instruction

variable {instruction : Instruction} {word : Word}

/-- The wording of an instruction that stands at `address`. -/
def wording (address : Int) : Instruction → Wording
  | .clear => ⟨"CLS", "", ""⟩
  | .ret => ⟨"RET", "", ""⟩
  | .jump target =>
      ⟨"JP", targetText target, if target.val = address then "infinite loop" else ""⟩
  | .call target => ⟨"CALL", targetText target, ""⟩
  | .skipIfByte x byte => ⟨"SE", withByte x byte, ""⟩
  | .skipUnlessByte x byte => ⟨"SNE", withByte x byte, ""⟩
  | .skipIfSame x y => ⟨"SE", withRegister x y, ""⟩
  | .load x byte => ⟨"LD", withByte x byte, ""⟩
  | .add x byte => ⟨"ADD", withByte x byte, ""⟩
  | .operate operation x y => ⟨operation.mnemonic, withRegister x y, ""⟩
  | .skipUnlessSame x y => ⟨"SNE", withRegister x y, ""⟩
  | .point target => ⟨"LD", "I, " ++ targetText target, glyphComment target⟩
  | .draw x y rows => ⟨"DRW", withRegister x y ++ s!", {rows.val}", ""⟩

theorem wordingOf_word (decoded : ofWord? word = some instruction) (address : Int) :
    wordingOf word.toNat address = .ok (instruction.wording address) := by
  have clear : (word.toNat : Int) = clearOpcode ↔ word.toNat = 0x00E0 := Int.ofNat_inj
  unfold ofWord? at decoded
  split at decoded
  case h_1 zero =>
    simp only [wordingOf, Word.ofInt_toNat, zero, clear]
    split at decoded
    · next same =>
      cases decoded
      rw [if_pos same]
      rfl
    split at decoded
    · next other same =>
      cases decoded
      rw [if_neg other]
      rfl
    · cases decoded
  case h_9 eight =>
    obtain ⟨operation, found, rfl⟩ := Option.map_eq_some_iff.1 decoded
    simp only [wordingOf, Word.ofInt_toNat, eight, Operation.lookup_mnemonics, found,
      Option.map_some]
    rfl
  case h_13 => cases decoded
  all_goals
    next family =>
      cases decoded
      simp only [wordingOf, Word.ofInt_toNat, family]
      rfl

theorem mnemonic_ne_word (instruction : Instruction) (address : Int) :
    (instruction.wording address).mnemonic ≠ ".WORD" := by
  cases instruction with
  | operate operation x y => cases operation <;> simp [wording, Operation.mnemonic]
  | _ => simp [wording]

end Instruction

namespace Listing

/-- Outside the first family, where all that is no screen clearing is taken for a return, a word
that is no instruction has no wording. -/
theorem wordingOf_unsupported {word : Word} (unsupported : ¬ word.supported)
    (family : word.family.val ≠ 0x0) (address : Int) :
    ∃ fault, wordingOf word.toNat address = .error fault ∧
      (fault.kind = .key ∨ fault.kind = .value) := by
  have undecoded : Instruction.ofWord? word = none := by
    rwa [Instruction.supported_eq_isSome, Option.not_isSome_iff_eq_none] at unsupported
  unfold Instruction.ofWord? at undecoded
  split at undecoded
  case h_1 zero => exact absurd zero family
  case h_9 eight =>
    have unknown := Option.map_eq_none_iff.1 undecoded
    simp only [wordingOf, Word.ofInt_toNat, eight, Operation.lookup_mnemonics, unknown,
      Option.map_none]
    exact ⟨_, rfl, .inl rfl⟩
  case h_13 =>
    simp only [wordingOf, Word.ofInt_toNat, *]
    exact ⟨_, rfl, .inr rfl⟩
  all_goals cases undecoded

/-- The item that shows two bytes. -/
def Item.ofPair (address : Int) (high low : UInt8) : Item :=
  let word := Word.ofBytes high low
  let wording := match Instruction.ofWord? word with
    | some instruction => instruction.wording address
    | none => ⟨".WORD", dollar word.toNat, "unknown opcode"⟩
  ⟨address, word.toNat, wording, [high, low]⟩

theorem pairItem_eq (address : Int) (high low : UInt8) :
    pairItem address high low = .ok (.ofPair address high low) := by
  cases decoded : Instruction.ofWord? (Word.ofBytes high low) with
  | none =>
      have unsupported : ¬ (Word.ofBytes high low).supported := by
        simp [Instruction.supported_iff_exists, decoded]
      simp only [pairItem, if_neg unsupported, Item.ofPair, decoded]
      rfl
  | some instruction =>
      have supported := Instruction.supported_iff_exists.2 ⟨instruction, decoded⟩
      simp only [pairItem, if_pos supported, Instruction.wordingOf_word decoded, Item.ofPair,
        decoded]
      rfl

/-- The items of the whole image, its first byte at `address`. -/
def items (address : Int) : List UInt8 → List Item
  | high :: low :: rest => .ofPair address high low :: items (address + 2) rest
  | [byte] => [.ofByte address byte]
  | [] => []

@[simp] theorem flatMap_bytes_items (address : Int) (image : List UInt8) :
    (items address image).flatMap Item.bytes = image := by
  fun_induction items address image <;> simp_all [Item.ofPair, Item.ofByte]

@[simp] theorem length_items (address : Int) (image : List UInt8) :
    (items address image).length = (image.length + 1) / 2 := by
  fun_induction items address image <;> simp_all
  omega

/-- At most `count` items, and none that starts `maxBytes` or more after the
first byte. -/
def list (image : List UInt8) (address : Int) (count maxBytes : Option Int) :
    List Item :=
  let all := items address image
  let few := match count with
    | none => all
    | some limit => all.take limit.toNat
  match maxBytes with
  | none => few
  | some limit => few.takeWhile fun item => item.address - address < limit

end Listing

end ChipEight
