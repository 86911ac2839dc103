import ChipEight.Machine.Step
import ChipEight.Proofs.Decoding
import ChipEight.Proofs.Execution

namespace ChipEight

/-! When a step completes, with which fault it fails otherwise, and in which state
it leaves the machine.

`refusal?` is the table of faults that a step finds before it writes anything.
On a well-formed machine there is one more, the read of an empty sprite beyond
the end of memory.
-/

def Memory.wordAt (memory : Memory) (address : Nat) : Word :=
  Word.ofBytes (memory.byteAt address) (memory.byteAt (address + 1))

namespace Machine

variable {machine after left : Machine} {word : Word} {fault : Fault}

def nextWord (machine : Machine) : Word := machine.memory.wordAt machine.pc.toNat

/-- The rows of a sprite that are on the screen, counted from the fields of its word. -/
def spriteRows (machine : Machine) (word : Word) : Nat :=
  min word.n.val (32 - (machine.value word.y).toNat % 32)

/-- Why a word cannot run to its end, if it cannot. -/
def obstacle? (machine : Machine) (word : Word) : Option Fault :=
  if ¬ word.supported then some (.unknownOpcode word.toNat machine.pc)
  else if word.toNat = 0x00EE ∧ machine.stack = [] then some (.emptyStack machine.pc)
  else if word.family.val = 0xD ∧ 1 ≤ word.n.val ∧
      0x1000 < machine.index + machine.spriteRows word then
    some (.spriteOutsideMemory machine.index (machine.spriteRows word))
  else none

/-- The fault with which the machine refuses its next instruction, if it does. -/
def refusal? (machine : Machine) : Option Fault :=
  if 0xFFE < machine.pc then some (.fetchOutsideMemory machine.pc)
  else machine.obstacle? machine.nextWord

/-- A sprite without rows is next, and the index points beyond the end of memory. -/
def EmptySpriteBeyond (machine : Machine) : Prop :=
  machine.pc ≤ 0xFFE ∧ machine.nextWord.family.val = 0xD ∧ machine.nextWord.n.val = 0 ∧
    0x1000 < machine.index

theorem peek_within (low : 0 ≤ machine.pc) (within : machine.pc + 2 ≤ machine.memory.size) :
    machine.peek = .ok machine.nextWord := by
  have covered := (machine.memory.covers_eq_ok_iff machine.pc 2).2 ⟨low, within⟩
  rw [peek, if_neg (by omega), Memory.readPair, covered]
  rfl

theorem nextWord_of_bytes {address : Nat} {high low : UInt8} (counter : machine.pc = address)
    (first : machine.memory.byteAt address = high)
    (second : machine.memory.byteAt (address + 1) = low) :
    machine.nextWord = .ofBytes high low := by
  rw [nextWord, counter, Int.toNat_natCast, Memory.wordAt, first, second]

theorem peek_of_bytes {address : Nat} {high low : UInt8} (counter : machine.pc = address)
    (size : machine.memory.size = memorySize) (inside : address < 0xFFF)
    (first : machine.memory.byteAt address = high)
    (second : machine.memory.byteAt (address + 1) = low) :
    machine.peek = .ok (.ofBytes high low) := by
  have within : machine.pc + 2 ≤ machine.memory.size := by
    rw [size, counter, memorySize]
    omega
  rw [peek_within (counter ▸ Int.natCast_nonneg address) within,
    nextWord_of_bytes counter first second]

theorem peek_eq_ok (peeked : machine.peek = .ok word) :
    0 ≤ machine.pc ∧ machine.pc + 2 ≤ machine.memory.size ∧ word = machine.nextWord := by
  simp only [peek] at peeked
  split at peeked
  · cases peeked
  simp only [Memory.readPair, bind_eq_ok_iff] at peeked
  obtain ⟨pair, ⟨_, covered, read⟩, result⟩ := peeked
  obtain ⟨low, within⟩ := (machine.memory.covers_eq_ok_iff ..).1 covered
  cases read
  cases result
  exact ⟨low, within, rfl⟩

theorem WellFormed.peek_eq (formed : machine.WellFormed) :
    machine.peek =
      if 0xFFE < machine.pc then .error (.fetchOutsideMemory machine.pc)
      else .ok machine.nextWord := by
  have size : machine.memory.size = 0x1000 := formed.memory
  split
  · next beyond => rw [peek, size, if_pos (by omega)]
  · next within => exact peek_within formed.pc.1 (by omega)

theorem WellFormed.visibleRows_word (formed : machine.WellFormed) (word : Word) :
    machine.visibleRows word.n.val (machine.value word.y) = machine.spriteRows word :=
  formed.visibleRows_eq _ _

theorem spriteRows_pos_iff (machine : Machine) (word : Word) :
    0 < machine.spriteRows word ↔ 1 ≤ word.n.val := by
  have := Nat.mod_lt (machine.value word.y).toNat (by decide : 0 < 32)
  unfold spriteRows
  omega

theorem WellFormed.vet_eq (formed : machine.WellFormed) (word : Word) :
    machine.vet word =
      match machine.obstacle? word with
      | some fault => .error fault
      | none => .ok () := by
  have size : machine.memory.size = 0x1000 := formed.memory
  have ret : (word.toNat : Int) = Instruction.returnOpcode ↔ word.toNat = 0x00EE := Int.ofNat_inj
  have same : (machine.spriteRows word ≠ 0 ∧
      ((0x1000 : Nat) : Int) < machine.index + machine.spriteRows word) ↔
      1 ≤ word.n.val ∧ 0x1000 < machine.index + machine.spriteRows word := by
    rw [← spriteRows_pos_iff machine word]
    omega
  unfold vet obstacle?
  simp only [ret]
  split
  · rfl
  split
  · rfl
  by_cases draws : word.family.val = 0xD
  · simp only [draws, if_true, true_and, formed.register_eq, ok_bind, formed.visibleRows_word, size,
      same]
    split <;> rfl
  · simp only [draws, if_false, false_and]

/-- The check of a word whose instruction is known. -/
def vetInstruction (machine : Machine) : Instruction → Except Fault Unit
  | .ret => if machine.stack = [] then .error (.emptyStack machine.pc) else .ok ()
  | .draw _ y rows => do
      let visible := machine.visibleRows rows.val (← machine.register y)
      if visible ≠ 0 ∧ (machine.memory.size : Int) < machine.index + visible then
        throw (.spriteOutsideMemory machine.index visible)
  | _ => .ok ()

theorem vet_word {instruction : Instruction}
    (decoded : Instruction.ofWord? word = some instruction) :
    machine.vet word = machine.vetInstruction instruction := by
  have supported := Instruction.supported_iff_exists.2 ⟨instruction, decoded⟩
  have ret : (word.toNat : Int) = Instruction.returnOpcode ↔ instruction = .ret :=
    Int.ofNat_inj.trans (Instruction.toNat_eq_ret_iff decoded)
  have family := Instruction.family_ofWord? decoded
  simp only [vet, supported, ret, family]
  cases instruction with
  | draw x y rows =>
      obtain ⟨-, rfl, rfl, rfl⟩ := Instruction.ofWord?_eq_draw_iff.1 decoded
      rfl
  | ret => simp [Instruction.family, vetInstruction]
  | _ => rfl

@[simp] theorem fetched_index : (machine.fetched word).index = machine.index := rfl

@[simp] theorem fetched_pc :
    (machine.fetched word).pc = Bits.lowWord (machine.pc + 2) := rfl

theorem WellFormed.fetched (formed : machine.WellFormed) (word : Word) :
    (machine.fetched word).WellFormed :=
  { formed with
    pc := by
      simp only [Machine.fetched, setPc, Bits.lowWord]
      omega }

theorem WellFormed.tick (formed : machine.WellFormed) : machine.tick.WellFormed :=
  { formed with
    delay := by
      have := formed.delay
      simp only [Machine.tick, tickTimer]
      split <;> omega
    sound := by
      have := formed.sound
      simp only [Machine.tick, tickTimer]
      split <;> omega }

theorem performOperation_eq {operation : Operation} {number : Nibble}
    (found : Operation.ofNibble? number = some operation) (x y : Nibble) (opcode : Int) :
    machine.performOperation number x y opcode = machine.execute (.operate operation x y) := by
  have executed : machine.execute (.operate operation x y) = machine.operate operation x y := rfl
  cases left : machine.register x with
  | error fault =>
      rw [executed, performOperation, operate, left]
      rfl
  | ok first =>
      cases right : machine.register y with
      | error fault =>
          rw [executed, performOperation, operate, left, right]
          rfl
      | ok second =>
          rw [performOperation, left, right]
          unfold Operation.ofNibble? at found
          split at found <;> cases found <;> simp only [*] <;> rfl

theorem perform_word {instruction : Instruction}
    (decoded : Instruction.ofWord? word = some instruction) :
    machine.perform word.toNat = machine.execute instruction := by
  have clear : (word.toNat : Int) = Instruction.clearOpcode ↔ word.toNat = 0x00E0 := Int.ofNat_inj
  have ret : (word.toNat : Int) = Instruction.returnOpcode ↔ word.toNat = 0x00EE := Int.ofNat_inj
  unfold Instruction.ofWord? at decoded
  split at decoded
  case h_1 zero =>
    simp only [perform, Word.ofInt_toNat, zero, clear, ret]
    split at decoded
    · next same =>
      cases decoded
      simp [same]
    split at decoded
    · next same =>
      cases decoded
      simp [same]
    · cases decoded
  case h_9 eight =>
    obtain ⟨operation, found, rfl⟩ := Option.map_eq_some_iff.1 decoded
    simp only [perform, Word.ofInt_toNat, eight, performOperation_eq found]
  case h_13 => cases decoded
  all_goals
    next family =>
      cases decoded
      simp only [perform, Word.ofInt_toNat, family]

/-- Everything a completed step has gone through. -/
theorem step_eq_ok (stepped : machine.step = .ok () after) :
    ∃ word instruction executed, machine.peek = .ok word ∧ machine.vet word = .ok () ∧
      Instruction.ofWord? word = some instruction ∧
      (machine.fetched word).execute instruction = .ok executed ∧ after = executed.tick := by
  unfold step at stepped
  cases peeked : machine.peek with
  | error fault => simp [peeked] at stepped
  | ok word =>
      cases vetted : machine.vet word with
      | error fault => simp [peeked, vetted] at stepped
      | ok =>
          cases decoded : Instruction.ofWord? word with
          | none =>
              have unknown : ¬ word.supported := by simp [Instruction.supported_iff_exists, decoded]
              simp [vet, unknown] at vetted
          | some instruction =>
              have performed := (machine.fetched word).perform_word decoded
              cases executed : (machine.fetched word).execute instruction with
              | error fault => simp [peeked, vetted, performed, executed] at stepped
              | ok result =>
                  simp only [peeked, vetted, performed, executed] at stepped
                  cases stepped
                  exact ⟨word, instruction, result, rfl, vetted, decoded, executed, rfl⟩

theorem WellFormed.step (formed : machine.WellFormed) (stepped : machine.step = .ok () after) :
    after.WellFormed := by
  obtain ⟨word, instruction, executed, -, -, -, execution, rfl⟩ := step_eq_ok stepped
  exact ((execute_effect execution).wellFormed (formed.fetched word)).tick

theorem WellFormed.step_refused (formed : machine.WellFormed)
    (refused : machine.refusal? = some fault) : machine.step = .error fault machine := by
  unfold refusal? at refused
  unfold Machine.step
  rw [formed.peek_eq]
  split at refused
  · next beyond =>
    cases refused
    rw [if_pos beyond]
  · next within =>
    simp only [if_neg within, formed.vet_eq, refused]

theorem obstacle?_eq_none_iff :
    machine.obstacle? word = none ↔
      word.supported ∧ (word.toNat = 0x00EE → machine.stack ≠ []) ∧
        (word.family.val = 0xD → 1 ≤ word.n.val →
          machine.index + machine.spriteRows word ≤ 0x1000) := by
  unfold obstacle?
  split
  · simp_all
  split
  · simp_all
  split
  · next beyond =>
    simp only [reduceCtorEq, false_iff, not_and, Classical.not_imp, Int.not_le]
    exact fun _ _ => beyond
  · simp_all

theorem refusal?_eq_none_iff :
    machine.refusal? = none ↔ machine.pc ≤ 0xFFE ∧ machine.obstacle? machine.nextWord = none := by
  unfold refusal?
  split
  · simp
    omega
  · simp_all

/-- What is left of a step that nothing is found against. -/
theorem WellFormed.step_admitted (formed : machine.WellFormed)
    (admitted : machine.refusal? = none) :
    ∃ instruction, Instruction.ofWord? machine.nextWord = some instruction ∧
      machine.step =
        match (machine.fetched machine.nextWord).execute instruction with
        | .error fault => .error fault (machine.fetched machine.nextWord)
        | .ok executed => .ok () executed.tick := by
  obtain ⟨within, free⟩ := refusal?_eq_none_iff.1 admitted
  have supported := (obstacle?_eq_none_iff.1 free).1
  obtain ⟨instruction, decoded⟩ := Instruction.supported_iff_exists.1 supported
  refine ⟨instruction, decoded, ?_⟩
  have performed := (machine.fetched machine.nextWord).perform_word decoded
  cases executed : (machine.fetched machine.nextWord).execute instruction <;>
    simp only [Machine.step, formed.peek_eq, if_neg (Int.not_lt.2 within), formed.vet_eq, free,
      performed, executed]

theorem WellFormed.visibleRows_fetched (formed : machine.WellFormed) (word : Word) :
    (machine.fetched word).visibleRows word.n.val ((machine.fetched word).value word.y) =
      machine.spriteRows word :=
  (formed.fetched word).visibleRows_word word

theorem spriteRows_eq_zero (empty : word.n.val = 0) : machine.spriteRows word = 0 := by
  rw [spriteRows, empty, Nat.zero_min]

/-- Nothing is found against a sprite without rows, wherever the index points. -/
theorem refusal?_emptySprite (within : machine.pc ≤ 0xFFE)
    (family : machine.nextWord.family.val = 0xD) (empty : machine.nextWord.n.val = 0) :
    machine.refusal? = none := by
  have decoded := Instruction.ofWord?_eq_draw_iff.2 ⟨family, rfl, rfl, rfl⟩
  refine refusal?_eq_none_iff.2 ⟨within, obstacle?_eq_none_iff.2 ⟨?_, ?_, ?_⟩⟩
  · exact Instruction.supported_iff_exists.2 ⟨_, decoded⟩
  · intro opcode
    simp [Word.family, opcode] at family
  · omega

theorem WellFormed.step_emptySprite (formed : machine.WellFormed)
    (beyond : machine.EmptySpriteBeyond) :
    machine.step =
      .error (.outsideMemory machine.index 0 0x1000) (machine.fetched machine.nextWord) := by
  obtain ⟨within, family, rows, index⟩ := beyond
  have decoded := Instruction.ofWord?_eq_draw_iff.2 ⟨family, rfl, rfl, rfl⟩
  have admitted := refusal?_emptySprite within family rows
  obtain ⟨instruction, same, step⟩ := formed.step_admitted admitted
  cases decoded.symm.trans same
  have invisible := formed.visibleRows_fetched machine.nextWord
  rw [spriteRows_eq_zero rows] at invisible
  have failed := (formed.fetched machine.nextWord).execute_draw_error machine.nextWord.x
    machine.nextWord.y machine.nextWord.n (by rw [invisible, fetched_index]; omega)
  rw [step, failed, invisible]
  rfl

/-- The rows that are read lie within memory; there may be none of them. -/
theorem sprite_within (admitted : machine.refusal? = none)
    (drawable : ¬ machine.EmptySpriteBeyond) (family : machine.nextWord.family.val = 0xD) :
    machine.index + machine.spriteRows machine.nextWord ≤ 0x1000 := by
  obtain ⟨within, free⟩ := refusal?_eq_none_iff.1 admitted
  by_cases empty : machine.nextWord.n.val = 0
  · have low : machine.index ≤ 0x1000 :=
      Int.not_lt.1 fun index => drawable ⟨within, family, empty, index⟩
    rw [spriteRows_eq_zero empty]
    omega
  · exact (obstacle?_eq_none_iff.1 free).2.2 family (by omega)

theorem WellFormed.step_completes (formed : machine.WellFormed)
    (admitted : machine.refusal? = none) (drawable : ¬ machine.EmptySpriteBeyond) :
    ∃ after, machine.step = .ok () after := by
  obtain ⟨instruction, decoded, step⟩ := formed.step_admitted admitted
  have returns := (obstacle?_eq_none_iff.1 (refusal?_eq_none_iff.1 admitted).2).2.1
  have runs : ∃ executed,
      (machine.fetched machine.nextWord).execute instruction = .ok executed := by
    apply (formed.fetched machine.nextWord).execute_ok
    · rintro rfl
      exact returns (Instruction.ofWord?_eq_ret_iff.1 decoded)
    · rintro x y rows rfl
      obtain ⟨family, rfl, rfl, rfl⟩ := Instruction.ofWord?_eq_draw_iff.1 decoded
      rw [formed.visibleRows_fetched, fetched_index]
      exact sprite_within admitted drawable family
  obtain ⟨executed, execution⟩ := runs
  exact ⟨executed.tick, by rw [step, execution]⟩

/-- The converse: a step that goes through all of that completes. -/
theorem step_of_execute {instruction : Instruction} {executed : Machine}
    (peeked : machine.peek = .ok word) (vetted : machine.vet word = .ok ())
    (decoded : Instruction.ofWord? word = some instruction)
    (execution : (machine.fetched word).execute instruction = .ok executed) :
    machine.step = .ok () executed.tick := by
  have performed := (machine.fetched word).perform_word decoded
  simp only [Machine.step, peeked, vetted, performed, execution]

theorem refusal?_kind (refused : machine.refusal? = some fault) :
    fault.kind = .unknownOpcode ∨ fault.kind = .emptyStack ∨ fault.kind = .bounds := by
  simp only [refusal?, obstacle?] at refused
  split at refused
  · cases refused
    exact .inr (.inr rfl)
  split at refused
  · cases refused
    exact .inl rfl
  split at refused
  · cases refused
    exact .inr (.inl rfl)
  split at refused
  · cases refused
    exact .inr (.inr rfl)
  · cases refused

/-- A step completes, or it fails with a fault that stepping has a name for. -/
theorem WellFormed.step_result (formed : machine.WellFormed) :
    (∃ after, machine.step = .ok () after) ∨
      ∃ fault left, machine.step = .error fault left ∧
        (fault.kind = .unknownOpcode ∨ fault.kind = .emptyStack ∨ fault.kind = .bounds) := by
  cases refused : machine.refusal? with
  | some fault => exact .inr ⟨fault, machine, formed.step_refused refused, refusal?_kind refused⟩
  | none =>
      by_cases beyond : machine.EmptySpriteBeyond
      · exact .inr ⟨_, _, formed.step_emptySprite beyond, .inr (.inr rfl)⟩
      · exact .inl (formed.step_completes refused beyond)

theorem steps_succ (count : Nat) (stepped : machine.step = .ok () after) :
    steps (count + 1) machine = steps count after := by
  simp only [steps, stepped]

theorem steps_succ_eq_ok {last : Machine} {count : Nat}
    (ran : steps (count + 1) machine = .ok () last) :
    ∃ next, machine.step = .ok () next ∧ steps count next = .ok () last := by
  simp only [steps] at ran
  split at ran
  · cases ran
  · next stepped => exact ⟨_, stepped, ran⟩

theorem steps_add {middle : Machine} {first second : Nat}
    (ran : steps first machine = .ok () middle) :
    steps (first + second) machine = steps second middle := by
  induction first generalizing machine with
  | zero =>
      cases ran
      rw [Nat.zero_add]
  | succ first induction =>
      rw [Nat.succ_add]
      simp only [steps] at ran ⊢
      cases stepped : machine.step with
      | error fault left => simp [stepped] at ran
      | ok _ next =>
          simp only [stepped] at ran ⊢
          exact induction ran

theorem WellFormed.steps (formed : machine.WellFormed) {count : Nat}
    (ran : steps count machine = .ok () after) : after.WellFormed := by
  induction count generalizing machine with
  | zero =>
      cases ran
      exact formed
  | succ count induction =>
      obtain ⟨next, stepped, rest⟩ := steps_succ_eq_ok ran
      exact induction (formed.step stepped) rest

theorem steps_one : steps 1 machine = machine.step := by
  simp only [steps]
  cases machine.step <;> rfl

end Machine

end ChipEight
