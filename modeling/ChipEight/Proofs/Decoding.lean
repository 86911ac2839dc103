import ChipEight.Instruction

namespace ChipEight

/-! Which words encode which instructions.

`ofWord?` reads the instruction off a word.  The check of words, their execution and their wording
each have a table of their own, and each is compared with it.
-/

def Operation.ofNibble? (nibble : Nibble) : Option Operation :=
  match nibble.val with
  | 0x0 => some .copy
  | 0x1 => some .or
  | 0x2 => some .and
  | 0x3 => some .xor
  | 0x4 => some .add
  | 0x5 => some .sub
  | 0x6 => some .shiftRight
  | 0x7 => some .subFrom
  | 0xE => some .shiftLeft
  | _ => none

def Operation.nibble : Operation → Nat
  | .copy => 0x0
  | .or => 0x1
  | .and => 0x2
  | .xor => 0x3
  | .add => 0x4
  | .sub => 0x5
  | .shiftRight => 0x6
  | .subFrom => 0x7
  | .shiftLeft => 0xE

theorem Operation.nibble_ofNibble? {operation : Operation} {nibble : Nibble}
    (found : ofNibble? nibble = some operation) : operation.nibble = nibble.val := by
  revert found
  cases operation <;> revert nibble <;> decide

namespace Instruction

def ofWord? (word : Word) : Option Instruction :=
  match word.family.val with
  | 0x0 =>
      if word.toNat = 0x00E0 then some .clear
      else if word.toNat = 0x00EE then some .ret
      else none
  | 0x1 => some (.jump word.nnn)
  | 0x2 => some (.call word.nnn)
  | 0x3 => some (.skipIfByte word.x word.nn)
  | 0x4 => some (.skipUnlessByte word.x word.nn)
  | 0x5 => some (.skipIfSame word.x word.y)
  | 0x6 => some (.load word.x word.nn)
  | 0x7 => some (.add word.x word.nn)
  | 0x8 => (Operation.ofNibble? word.n).map (.operate · word.x word.y)
  | 0x9 => some (.skipUnlessSame word.x word.y)
  | 0xA => some (.point word.nnn)
  | 0xD => some (.draw word.x word.y word.n)
  | _ => none

variable {instruction : Instruction} {word first second : Word}

theorem operations_contains (nibble : Nibble) :
    operations.contains nibble.val = (Operation.ofNibble? nibble).isSome := by
  revert nibble
  decide

/-- The check of words knows those that an instruction can be read off. -/
theorem supported_eq_isSome (word : Word) : word.supported = (ofWord? word).isSome := by
  unfold ofWord?
  split
  case h_1 zero =>
    have clear : (word.toNat : Int) = clearOpcode ↔ word.toNat = 0x00E0 := Int.ofNat_inj
    have ret : (word.toNat : Int) = returnOpcode ↔ word.toNat = 0x00EE := Int.ofNat_inj
    rw [Word.supported, if_pos zero]
    split
    · next same => simp [clear.2 same]
    split
    · next same => simp [ret.2 same]
    · simp_all
  case h_9 eight =>
    have other : ¬ word.family.val = 0x0 := by omega
    rw [Word.supported, if_neg other, if_pos eight, operations_contains, Option.isSome_map]
  all_goals simp_all [Word.supported, simpleFamilies]

theorem supported_iff_exists : word.supported ↔ ∃ instruction, ofWord? word = some instruction := by
  rw [supported_eq_isSome, Option.isSome_iff_exists]

theorem ofWord?_eq_ret_iff : ofWord? word = some .ret ↔ word.toNat = 0x00EE := by
  constructor
  · intro decoded
    simp only [ofWord?] at decoded
    split at decoded
    · split at decoded
      · cases decoded
      split at decoded
      · assumption
      · cases decoded
    all_goals simp at decoded
  · intro same
    simp [ofWord?, Word.family, same]

theorem ofWord?_eq_clear (same : word.toNat = 0x00E0) : ofWord? word = some .clear := by
  simp [ofWord?, Word.family, same]

theorem ofWord?_eq_call_iff {target : Target} :
    ofWord? word = some (.call target) ↔ word.family.val = 0x2 ∧ word.nnn = target := by
  simp only [ofWord?]
  split
  · split
    · simp_all
    split <;> simp_all
  all_goals simp_all

theorem ofWord?_eq_draw_iff {x y rows : Nibble} :
    ofWord? word = some (.draw x y rows) ↔
      word.family.val = 0xD ∧ word.x = x ∧ word.y = y ∧ word.n = rows := by
  simp only [ofWord?]
  split
  · split
    · simp_all
    split <;> simp_all
  all_goals simp_all

/-- The words of an instruction; the spare nibble is the last one where decoding drops it. -/
def encode (spare : Nibble) : Instruction → Nat
  | .clear => 0x00E0
  | .ret => 0x00EE
  | .jump target => 0x1000 + target
  | .call target => 0x2000 + target
  | .skipIfByte x byte => 0x3000 + x * 0x100 + byte.toNat
  | .skipUnlessByte x byte => 0x4000 + x * 0x100 + byte.toNat
  | .skipIfSame x y => 0x5000 + x * 0x100 + y * 0x10 + spare
  | .load x byte => 0x6000 + x * 0x100 + byte.toNat
  | .add x byte => 0x7000 + x * 0x100 + byte.toNat
  | .operate operation x y => 0x8000 + x * 0x100 + y * 0x10 + operation.nibble
  | .skipUnlessSame x y => 0x9000 + x * 0x100 + y * 0x10 + spare
  | .point target => 0xA000 + target
  | .draw x y rows => 0xD000 + x * 0x100 + y * 0x10 + rows

theorem encode_ofWord? (decoded : ofWord? word = some instruction) :
    instruction.encode word.n = word.toNat := by
  have fields := word.fields
  have low : word.nn.toNat = word.y.val * 0x10 + word.n.val := by
    simp only [Word.nn, Word.y, Word.n, UInt8.toNat_ofNat']
    omega
  have target : word.nnn.val = word.x.val * 0x100 + word.y.val * 0x10 + word.n.val := by
    simp only [Word.nnn, Word.x, Word.y, Word.n]
    omega
  simp only [ofWord?] at decoded
  split at decoded
  case h_1 zero =>
    split at decoded
    · next same =>
      cases decoded
      exact same.symm
    split at decoded
    · next same =>
      cases decoded
      exact same.symm
    · cases decoded
  case h_9 eight =>
    obtain ⟨operation, found, rfl⟩ := Option.map_eq_some_iff.1 decoded
    have nibble := Operation.nibble_ofNibble? found
    simp only [encode]
    omega
  case h_13 => cases decoded
  all_goals
    cases decoded
    simp only [encode]
    omega

/-- The first nibble of an instruction's words. -/
def family : Instruction → Nat
  | .clear | .ret => 0x0
  | .jump _ => 0x1
  | .call _ => 0x2
  | .skipIfByte .. => 0x3
  | .skipUnlessByte .. => 0x4
  | .skipIfSame .. => 0x5
  | .load .. => 0x6
  | .add .. => 0x7
  | .operate .. => 0x8
  | .skipUnlessSame .. => 0x9
  | .point _ => 0xA
  | .draw .. => 0xD

theorem family_ofWord? (decoded : ofWord? word = some instruction) :
    word.family.val = instruction.family := by
  have made := encode_ofWord? decoded
  cases instruction with
  | skipIfByte x byte | skipUnlessByte x byte | load x byte | add x byte =>
      have := byte.toNat_lt
      simp only [Word.family, encode, family] at made ⊢
      omega
  | operate operation x y =>
      cases operation <;>
        simp only [Word.family, encode, family, Operation.nibble] at made ⊢ <;>
        omega
  | _ =>
      simp only [Word.family, encode, family] at made ⊢
      omega

theorem toNat_eq_clear_iff (decoded : ofWord? word = some instruction) :
    word.toNat = 0x00E0 ↔ instruction = .clear := by
  constructor
  · intro same
    exact Option.some.inj (decoded.symm.trans (ofWord?_eq_clear same))
  · rintro rfl
    exact (encode_ofWord? decoded).symm

theorem toNat_eq_ret_iff (decoded : ofWord? word = some instruction) :
    word.toNat = 0x00EE ↔ instruction = .ret := by
  rw [← ofWord?_eq_ret_iff, decoded, Option.some.injEq]

theorem family_x_y {family : Nat} {x y n : Nibble}
    (made : family * 0x1000 + x * 0x100 + y * 0x10 + n = word.toNat) :
    word.family.val = family ∧ word.x = x ∧ word.y = y := by
  simp only [Fin.ext_iff, Word.family, Word.x, Word.y]
  omega

theorem ofWord?_compares (compares : word.family.val = 0x5 ∨ word.family.val = 0x9) :
    ofWord? word =
      some (if word.family.val = 0x5 then .skipIfSame word.x word.y
        else .skipUnlessSame word.x word.y) := by
  rcases compares with family | family <;>
    simp [ofWord?, family]

/-- One instruction has several words only where two registers are compared. -/
theorem ofWord?_congr_iff (known : first.supported) :
    ofWord? first = ofWord? second ↔
      first = second ∨
        first.family = second.family ∧ (first.family.val = 0x5 ∨ first.family.val = 0x9) ∧
          first.x = second.x ∧ first.y = second.y := by
  constructor
  · intro same
    obtain ⟨instruction, decoded⟩ := supported_iff_exists.1 known
    have left := encode_ofWord? decoded
    have right := encode_ofWord? (same.symm.trans decoded)
    have equal (words : first.toNat = second.toNat) : first = second := by
      rw [← Word.ofInt_toNat first, words, Word.ofInt_toNat]
    cases instruction with
    | skipIfSame x y =>
        obtain ⟨five, firstX, firstY⟩ := @family_x_y first 5 x y first.n left
        obtain ⟨alsoFive, secondX, secondY⟩ := @family_x_y second 5 x y second.n right
        exact .inr ⟨Fin.ext (five.trans alsoFive.symm), .inl five, firstX.trans secondX.symm,
          firstY.trans secondY.symm⟩
    | skipUnlessSame x y =>
        obtain ⟨nine, firstX, firstY⟩ := @family_x_y first 9 x y first.n left
        obtain ⟨alsoNine, secondX, secondY⟩ := @family_x_y second 9 x y second.n right
        exact .inr ⟨Fin.ext (nine.trans alsoNine.symm), .inr nine, firstX.trans secondX.symm,
          firstY.trans secondY.symm⟩
    | _ => exact .inl (equal (left.symm.trans right))
  · rintro (rfl | ⟨family, compares, x, y⟩)
    · rfl
    · rw [ofWord?_compares compares, ofWord?_compares (family ▸ compares), family, x, y]

end Instruction

end ChipEight
