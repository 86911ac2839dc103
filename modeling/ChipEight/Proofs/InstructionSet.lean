import ChipEight.Proofs.Step

namespace ChipEight

/-! Which words the machine knows.

`Listed` writes the instruction set down by nibbles.  A word outside it is refused as
unknown; a word of it may fail for want of an operand, but never as unknown.
-/

def Word.Listed (word : Word) : Prop :=
  word.toNat = 0x00E0 ∨ word.toNat = 0x00EE ∨
    word.family.val ∈ [0x1, 0x2, 0x3, 0x4, 0x5, 0x6, 0x7, 0x9, 0xA, 0xD] ∨
    word.family.val = 0x8 ∧ word.n.val ∈ [0x0, 0x1, 0x2, 0x3, 0x4, 0x5, 0x6, 0x7, 0xE]

theorem Word.supported_iff (word : Word) : word.supported ↔ word.Listed := by
  have clear : (word.toNat : Int) = Instruction.clearOpcode ↔ word.toNat = 0x00E0 := Int.ofNat_inj
  have ret : (word.toNat : Int) = Instruction.returnOpcode ↔ word.toNat = 0x00EE := Int.ofNat_inj
  have single (same : word.toNat = 0x00E0 ∨ word.toNat = 0x00EE) : word.family.val = 0x0 := by
    rcases same with same | same <;> simp only [family, same]
  by_cases zero : word.family.val = 0x0
  · simp [supported, Listed, zero, clear, ret]
  · obtain ⟨notClear, notRet⟩ := not_or.1 (mt single zero)
    by_cases eight : word.family.val = 0x8
    · simp [supported, Listed, eight, notClear, notRet, Instruction.operations]
    · simp [supported, Listed, zero, eight, notClear, notRet, Instruction.simpleFamilies]

namespace Machine

variable {machine left : Machine} {instruction : Instruction} {word : Word} {fault : Fault}

theorem register_error {x : Nibble} (failed : machine.register x = .error fault) :
    fault.kind = .position := by
  unfold register at failed
  split at failed
  · cases failed
  · cases failed
    rfl

theorem setRegister_error {x : Nibble} {value : UInt8}
    (failed : machine.setRegister x value = .error fault) : fault.kind = .position := by
  unfold setRegister at failed
  split at failed
  · cases failed
  · cases failed
    rfl

theorem operate_error {operation : Operation} {x y : Nibble}
    (failed : machine.operate operation x y = .error fault) : fault.kind = .position := by
  simp only [operate, bind_eq_error_iff] at failed
  rcases failed with failed | ⟨first, -, failed | ⟨second, -, failed | ⟨stored, -, failed⟩⟩⟩
  · exact register_error failed
  · exact register_error failed
  · exact setRegister_error failed
  · split at failed
    · exact setRegister_error failed
    · cases failed

theorem drawSprite_error {x y : Nibble} {rows : Nat}
    (failed : machine.drawSprite x y rows = .error fault) :
    fault.kind = .position ∨ fault.kind = .bounds ∨ fault.kind = .division := by
  simp only [drawSprite, bind_eq_error_iff] at failed
  rcases failed with failed | ⟨top, -, failed | ⟨sprite, -, failed | ⟨first, -, failed⟩⟩⟩
  · exact .inl (register_error failed)
  · simp only [Memory.readBlock, Memory.covers] at failed
    split at failed
    · cases failed
    · cases failed
      exact .inr (.inl rfl)
  · exact .inl (register_error failed)
  · rcases failed with failed | ⟨⟨collision, screen⟩, -, failed | ⟨stored, -, failed⟩⟩
    · unfold Screen.draw at failed
      split at failed
      · cases failed
        exact .inr (.inr rfl)
      · cases failed
    · exact .inl (setRegister_error failed)
    · cases failed

theorem execute_error (failed : machine.execute instruction = .error fault) :
    fault.kind = .position ∨ fault.kind = .bounds ∨ fault.kind = .division := by
  cases instruction with
  | clear | jump target | call target | point target => cases failed
  | ret =>
      simp only [execute] at failed
      split at failed
      · cases failed
        exact .inl rfl
      · cases failed
  | skipIfByte x byte | skipUnlessByte x byte =>
      simp only [execute, bind_eq_error_iff] at failed
      rcases failed with failed | ⟨value, -, failed⟩
      · exact .inl (register_error failed)
      · cases failed
  | skipIfSame x y | skipUnlessSame x y =>
      simp only [execute, bind_eq_error_iff] at failed
      rcases failed with failed | ⟨first, -, failed | ⟨second, -, failed⟩⟩
      · exact .inl (register_error failed)
      · exact .inl (register_error failed)
      · cases failed
  | load x byte => exact .inl (setRegister_error failed)
  | add x byte =>
      simp only [execute, bind_eq_error_iff] at failed
      rcases failed with failed | ⟨value, -, failed⟩
      · exact .inl (register_error failed)
      · exact .inl (setRegister_error failed)
  | operate operation x y => exact .inl (operate_error failed)
  | draw x y rows => exact drawSprite_error failed

theorem execute_error_kind (failed : machine.execute instruction = .error fault) :
    fault.kind ≠ .unknownOpcode := by
  rcases execute_error failed with kind | kind | kind <;> simp [kind]

theorem perform_supported (supported : word.supported)
    (failed : machine.perform word.toNat = .error fault) : fault.kind ≠ .unknownOpcode := by
  obtain ⟨instruction, decoded⟩ := Instruction.supported_iff_exists.1 supported
  rw [perform_word decoded] at failed
  exact execute_error_kind failed

theorem performOperation_supported {opcode : Int} (supported : word.supported)
    (family : word.family.val = 0x8)
    (failed : machine.performOperation word.n word.x word.y opcode = .error fault) :
    fault.kind ≠ .unknownOpcode := by
  obtain ⟨instruction, decoded⟩ := Instruction.supported_iff_exists.1 supported
  simp only [Instruction.ofWord?, family] at decoded
  obtain ⟨operation, found, -⟩ := Option.map_eq_some_iff.1 decoded
  rw [performOperation_eq found] at failed
  exact execute_error_kind failed

theorem performOperation_unknown {number x y : Nibble} {opcode : Int} {left right : UInt8}
    (unknown : Operation.ofNibble? number = none) (first : machine.register x = .ok left)
    (second : machine.register y = .ok right) :
    machine.performOperation number x y opcode = .error (.unknownOpcode opcode (machine.pc - 2)) := by
  unfold Operation.ofNibble? at unknown
  split at unknown
  case h_10 =>
    simp only [performOperation, *]
    rfl
  all_goals cases unknown

/-- Both tables of the execution come to their ends with a word that is no instruction. -/
theorem perform_unsupported (complete : machine.registers.length = registerCount)
    (unsupported : ¬ word.supported) :
    machine.perform word.toNat = .error (.unknownOpcode word.toNat (machine.pc - 2)) := by
  have undecoded : Instruction.ofWord? word = none := by
    rwa [Instruction.supported_eq_isSome, Option.not_isSome_iff_eq_none] at unsupported
  have stored (x : Nibble) : ∃ byte, machine.register x = .ok byte := by
    have inside : x.val < machine.registers.length := by rw [complete]; exact x.isLt
    exact ⟨_, by rw [register, List.getElem?_eq_getElem inside]⟩
  have clear : (word.toNat : Int) = Instruction.clearOpcode ↔ word.toNat = 0x00E0 := Int.ofNat_inj
  have ret : (word.toNat : Int) = Instruction.returnOpcode ↔ word.toNat = 0x00EE := Int.ofNat_inj
  unfold Instruction.ofWord? at undecoded
  split at undecoded
  case h_1 zero =>
    split at undecoded
    · cases undecoded
    split at undecoded
    · cases undecoded
    · next notClear notRet =>
      simp only [perform, Word.ofInt_toNat, zero, clear, ret, notClear, notRet, if_false]
  case h_9 eight =>
    obtain ⟨left, first⟩ := stored word.x
    obtain ⟨right, second⟩ := stored word.y
    simp only [perform, Word.ofInt_toNat, eight]
    exact performOperation_unknown (Option.map_eq_none_iff.1 undecoded) first second
  case h_13 => simp [perform, Word.ofInt_toNat]
  all_goals cases undecoded

theorem vet_supported (supported : word.supported) (failed : machine.vet word = .error fault) :
    fault.kind ≠ .unknownOpcode := by
  rw [vet, if_neg (not_not_intro supported)] at failed
  split at failed
  · cases failed
    simp [Fault.kind]
  split at failed
  · simp only [bind_eq_error_iff] at failed
    rcases failed with failed | ⟨top, -, failed⟩
    · simp [register_error failed]
    · split at failed
      · cases failed
        simp [Fault.kind]
      · cases failed
  · cases failed

theorem step_knows_iff (low : 0 ≤ machine.pc) (within : machine.pc + 2 ≤ machine.memory.size) :
    (∀ fault left, machine.step = .error fault left → fault.kind ≠ .unknownOpcode) ↔
      machine.nextWord.supported := by
  have peeked := peek_within low within
  constructor
  · intro knows
    refine Classical.byContradiction fun unsupported => ?_
    have refused : machine.step =
        .error (.unknownOpcode machine.nextWord.toNat machine.pc) machine := by
      simp only [step, peeked, vet, if_pos unsupported]
    exact knows _ _ refused rfl
  · intro supported fault left failed
    simp only [step, peeked] at failed
    cases vetted : machine.vet machine.nextWord with
    | error reason =>
        simp only [vetted] at failed
        cases failed
        exact vet_supported supported vetted
    | ok =>
        cases performed : (machine.fetched machine.nextWord).perform machine.nextWord.toNat with
        | error reason =>
            simp only [vetted, performed] at failed
            cases failed
            exact perform_supported supported performed
        | ok after => simp [vetted, performed] at failed

end Machine

end ChipEight
