import ChipEight.Proofs.Loading
import ChipEight.Proofs.Step

namespace ChipEight.Machine

/-! Whether a step that fails leaves the machine as it was.

It does, but for one instruction.  A sprite without rows passes the check before
the step, and the read of its no bytes is then refused where the index points
beyond the end of memory.  By that time the word has been fetched.
-/

variable {machine : Machine}

theorem fetched_ne (word : Word) (formed : machine.WellFormed) : machine.fetched word ≠ machine := by
  intro same
  have moved : Bits.lowWord (machine.pc + 2) = machine.pc := congrArg pc same
  have range := formed.pc
  unfold Bits.lowWord at moved
  omega

/-- A step that fails leaves the machine as it was, but for one kind of step: the drawing of a
sprite without rows from beyond the end of memory.  Its word has been fetched by the time that the
read of no bytes fails.  A sprite without rows is drawn wherever the index is not beyond the end. -/
theorem step_leaves_machine_iff (formed : machine.WellFormed) :
    ((∀ fault left, machine.step = .error fault left → left = machine) ↔
        ¬ machine.EmptySpriteBeyond) ∧
      (machine.EmptySpriteBeyond →
        machine.step =
          .error (.outsideMemory machine.index 0 0x1000) (machine.fetched machine.nextWord)) ∧
      (machine.pc ≤ 0xFFE → machine.nextWord.family.val = 0xD →
        machine.spriteRows machine.nextWord = 0 →
        ((∃ after, machine.step = .ok () after) ↔ machine.index ≤ 0x1000)) := by
  refine ⟨⟨?_, ?_⟩, formed.step_emptySprite, ?_⟩
  · intro atomic beyond
    exact fetched_ne _ formed (atomic _ _ (formed.step_emptySprite beyond))
  · intro drawable fault left failed
    cases found : machine.refusal? with
    | some refusal =>
        cases (formed.step_refused found).symm.trans failed
        rfl
    | none =>
        obtain ⟨after, completed⟩ := formed.step_completes found drawable
        cases completed.symm.trans failed
  · intro within family invisible
    have empty : machine.nextWord.n.val = 0 := by
      have := machine.spriteRows_pos_iff machine.nextWord
      omega
    constructor
    · rintro ⟨after, completed⟩
      refine Int.not_lt.1 fun index => ?_
      cases (formed.step_emptySprite ⟨within, family, empty, index⟩).symm.trans completed
    · intro index
      exact formed.step_completes (refusal?_emptySprite within family empty)
        fun beyond => absurd beyond.2.2.2 (Int.not_lt.2 index)

theorem step_leaves_initial :
    initial.WellFormed ∧ (∀ fault left, initial.step = .error fault left → left = initial) ∧
      initial.step = .error (.unknownOpcode 0 0x200) initial := by
  have drawable : ¬ initial.EmptySpriteBeyond := fun beyond => absurd beyond.2.2.2 (by decide)
  refine ⟨initial_wellFormed, (step_leaves_machine_iff initial_wellFormed).1.2 drawable, ?_⟩
  have word : initial.nextWord = Word.ofBytes 0 0 := by
    simp only [nextWord, Memory.wordAt, initial, Memory.byteAt_zeroed]
  apply initial_wellFormed.step_refused
  simp only [refusal?, obstacle?, word]
  rfl

/-- The word D000 with the index one past the end of memory fails halfway. -/
theorem step_not_atomic :
    ∃ memory, loaded none [0xD0, 0x00] = .ok (powered memory) ∧
      ((powered memory).setIndex 0x1001).WellFormed ∧
      ∃ fault left, ((powered memory).setIndex 0x1001).step = .error fault left ∧
        left ≠ (powered memory).setIndex 0x1001 := by
  obtain ⟨memory, run, size, bytes⟩ := loaded_ok none [0xD0, 0x00] (by simp) (by decide)
  have index : ((powered memory).setIndex 0x1001).index = 0x1001 := rfl
  have formed : ((powered memory).setIndex 0x1001).WellFormed :=
    { powered_wellFormed size with
      index := by
        rw [index]
        decide }
  have word : ((powered memory).setIndex 0x1001).nextWord = Word.ofBytes 0xD0 0x00 := by
    change Word.ofBytes (memory.byteAt 0x200) (memory.byteAt 0x201) = _
    rw [bytes, bytes]
    rfl
  have beyond : ((powered memory).setIndex 0x1001).EmptySpriteBeyond := by
    unfold EmptySpriteBeyond
    rw [word, index]
    exact ⟨by change (0x200 : Int) ≤ 0xFFE; decide, rfl, rfl, by decide⟩
  exact ⟨memory, run, formed, _, _, formed.step_emptySprite beyond, fetched_ne _ formed⟩

end ChipEight.Machine
