import ChipEight.Proofs.Assembling
import ChipEight.Proofs.Step

namespace ChipEight

/-! What the text of a word tells.

It tells the instruction, and neither the check of a word nor its execution looks at more.  What
two words of one text may differ in is a nibble that decoding drops.
-/

namespace Word

variable (word : Word)

def high : UInt8 := UInt8.ofNat (word.toNat / 0x100)

theorem ofBytes_high_nn : ofBytes word.high word.nn = word := by
  obtain ⟨value, bound⟩ := word
  simp only [ofBytes, high, nn, UInt8.toNat_ofNat', mk.injEq]
  omega

end Word

/-- Checks a word and executes it, without the fetch before and the timers after it. -/
def Machine.carryOut (machine : Machine) (word : Word) : Except Fault Machine := do
  machine.vet word
  machine.perform word.toNat

/-- Neither the check nor the execution looks at more of a word than its instruction. -/
theorem Machine.carryOut_congr {first second : Word} (known : first.supported)
    (same : Instruction.ofWord? first = Instruction.ofWord? second) (machine : Machine) :
    machine.carryOut first = machine.carryOut second := by
  obtain ⟨instruction, decoded⟩ := Instruction.supported_iff_exists.1 known
  have other := same.symm.trans decoded
  have checked : machine.vet first = machine.vet second :=
    (Machine.vet_word decoded).trans (Machine.vet_word other).symm
  rw [carryOut, carryOut, checked, machine.perform_word decoded, machine.perform_word other]

namespace Listing

/-- The item of a word that stands at `address`. -/
def Item.ofWord (address : Int) (word : Word) : Item := .ofPair address word.high word.nn

theorem ofText?_ofWord {word : Word} (known : word.supported) (address : Int) :
    Instruction.ofText? (Item.ofWord address word).text = Instruction.ofWord? word := by
  obtain ⟨instruction, decoded⟩ := Instruction.supported_iff_exists.1 known
  have text : (Item.ofWord address word).text = (instruction.wording address).text := by
    simp only [Item.text, Item.ofWord, Item.ofPair, word.ofBytes_high_nn, decoded]
  rw [text, instruction.ofText?_wording, decoded]

theorem text_eq_iff {first second : Word} (known : first.supported) (alsoKnown : second.supported)
    (address : Int) :
    (Item.ofWord address first).text = (Item.ofWord address second).text ↔
      Instruction.ofWord? first = Instruction.ofWord? second := by
  constructor
  · intro same
    rw [← ofText?_ofWord known address, ← ofText?_ofWord alsoKnown address, same]
  · intro same
    simp only [Item.text, Item.ofWord, Item.ofPair, Word.ofBytes_high_nn, same]
    obtain ⟨instruction, decoded⟩ := Instruction.supported_iff_exists.1 alsoKnown
    simp only [decoded]

/-- Instructions that are listed with the same text do the same to every machine.  They are the same
word, too, but for the last digit of a comparison of two registers, which counts for nothing. -/
theorem text_determines_behaviour (address : Int) {first second : Word} (known : first.supported)
    (alsoKnown : second.supported) :
    ((Item.ofWord address first).text = (Item.ofWord address second).text →
        ∀ machine : Machine, machine.carryOut first = machine.carryOut second) ∧
      ((Item.ofWord address first).text = (Item.ofWord address second).text ↔
        first = second ∨
          first.family = second.family ∧ (first.family.val = 0x5 ∨ first.family.val = 0x9) ∧
            first.x = second.x ∧ first.y = second.y) := by
  have decodes := text_eq_iff known alsoKnown address
  constructor
  · intro same machine
    exact Machine.carryOut_congr known (decodes.1 same) machine
  · exact decodes.trans (Instruction.ofWord?_congr_iff known)

/-- Two words for the comparison of V0 with V1. -/
theorem comparisons_behave_alike :
    (Word.ofInt 0x5010).supported ∧ (Word.ofInt 0x501F).supported ∧
      Word.ofInt 0x5010 ≠ Word.ofInt 0x501F ∧
      (Item.ofWord 0x200 (.ofInt 0x5010)).text = (Item.ofWord 0x200 (.ofInt 0x501F)).text ∧
      ∀ machine : Machine, machine.carryOut (.ofInt 0x5010) = machine.carryOut (.ofInt 0x501F) := by
  have known : (Word.ofInt 0x5010).supported := rfl
  have alsoKnown : (Word.ofInt 0x501F).supported := rfl
  obtain ⟨alike, texts⟩ := text_determines_behaviour 0x200 known alsoKnown
  have same := texts.2 (.inr ⟨rfl, .inl rfl, rfl, rfl⟩)
  exact ⟨known, alsoKnown, by decide, same, alike same⟩

end Listing

end ChipEight
