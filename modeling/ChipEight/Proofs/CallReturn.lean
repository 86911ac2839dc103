import ChipEight.Proofs.Loading
import ChipEight.Proofs.Shape

namespace ChipEight.Machine

/-! What a call leaves when it is over.

While a call lasts, the stack ends with the address behind it and the stack it was made on.
Nothing below that is touched until an instruction takes the address itself, and that is a
return.  So it does not matter what else happens in between.
-/

variable {origin machine after last : Machine} {word : Word}

theorem Effect.returned (effect : Effect machine .ret after) :
    ∃ address, machine.stack = address :: after.stack ∧ after.pc = Bits.lowWord address := by
  cases effect with
  | ret top => exact ⟨_, top, rfl⟩
  | skip skips moved => cases skips
  | store stores count => cases stores

/-- Only a call and a return change the stack, each at its top. -/
theorem step_stack (stepped : machine.step = .ok () after) :
    after.stack = machine.stack ∨ (∃ top, after.stack = top :: machine.stack) ∨
      machine.nextWord.toNat = 0x00EE ∧
        ∃ address, machine.stack = address :: after.stack ∧ after.pc = Bits.lowWord address := by
  obtain ⟨word, instruction, executed, peeked, -, decoded, execution, rfl⟩ := step_eq_ok stepped
  obtain ⟨-, -, rfl⟩ := peek_eq_ok peeked
  have effect := execute_effect execution
  rcases effect.stack with same | ⟨target, -, pushed⟩ | ⟨rfl, -⟩
  · exact .inl same
  · exact .inr (.inl ⟨_, pushed⟩)
  · exact .inr (.inr ⟨Instruction.ofWord?_eq_ret_iff.1 decoded, effect.returned⟩)

/-- A machine within the call that `origin` is about to make. -/
def Within (origin machine : Machine) : Prop :=
  ∃ above, machine.stack = above ++ (origin.pc + 2) :: origin.stack

theorem Within.deeper (inside : Within origin machine) : origin.depth < machine.depth := by
  obtain ⟨above, stack⟩ := inside
  simp only [depth, stack, List.length_append, List.length_cons]
  omega

theorem call_enters (size : origin.memory.size = memorySize)
    (call : origin.nextWord.family.val = 0x2) (stepped : origin.step = .ok () after) :
    0 ≤ origin.pc ∧ origin.pc ≤ 0xFFE ∧ Within origin after := by
  obtain ⟨word, instruction, executed, peeked, -, decoded, execution, rfl⟩ := step_eq_ok stepped
  obtain ⟨low, within, rfl⟩ := peek_eq_ok peeked
  simp only [size, memorySize] at within
  cases (Instruction.ofWord?_eq_call_iff.2 ⟨call, rfl⟩).symm.trans decoded
  cases execution
  have next : Bits.lowWord (origin.pc + 2) = origin.pc + 2 := by
    simp only [Bits.lowWord]
    omega
  refine ⟨low, by omega, [], ?_⟩
  change (origin.fetched origin.nextWord).pc :: origin.stack = _
  rw [fetched_pc, next]
  rfl

/-- A step within a call stays there, or it is the return from it. -/
theorem Within.step (inside : Within origin machine) (stepped : machine.step = .ok () after) :
    Within origin after ∨
      machine.nextWord.toNat = 0x00EE ∧ after.pc = Bits.lowWord (origin.pc + 2) ∧
        after.stack = origin.stack := by
  obtain ⟨above, stack⟩ := inside
  rcases step_stack stepped with same | ⟨top, pushed⟩ | ⟨returns, address, popped, target⟩
  · exact .inl ⟨above, same.trans stack⟩
  · refine .inl ⟨top :: above, ?_⟩
    rw [pushed, stack]
    rfl
  · rw [stack] at popped
    cases above with
    | nil =>
        obtain ⟨rfl, rest⟩ := List.cons.inj popped
        exact .inr ⟨returns, target, rest.symm⟩
    | cons top others =>
        obtain ⟨-, rest⟩ := List.cons.inj popped
        exact .inl ⟨others, rest.symm⟩

/-- By induction on the run: each step but the last stays within the call, since the depth is
greater afterwards. -/
theorem Within.returns {count : Nat} (inside : Within origin machine)
    (ran : steps count machine = .ok () last)
    (deeper : ∀ taken < count, ∀ middle, steps taken machine = .ok () middle →
      origin.depth < middle.depth)
    (level : last.depth = origin.depth) :
    ∃ earlier before, earlier + 1 = count ∧ steps earlier machine = .ok () before ∧
      before.step = .ok () last ∧ before.nextWord.toNat = 0x00EE ∧
      last.pc = Bits.lowWord (origin.pc + 2) ∧ last.stack = origin.stack := by
  induction count generalizing machine with
  | zero =>
      cases ran
      have := inside.deeper
      omega
  | succ count induction =>
      obtain ⟨next, stepped, rest⟩ := steps_succ_eq_ok ran
      have first (taken : Nat) := steps_succ taken stepped
      rcases inside.step stepped with stays | ⟨returns, pc, stack⟩
      · have later (taken : Nat) (fewer : taken < count) (middle : Machine)
            (run : steps taken next = .ok () middle) : origin.depth < middle.depth :=
          deeper (taken + 1) (Nat.succ_lt_succ fewer) middle ((first taken).trans run)
        obtain ⟨earlier, before, counted, run, ending⟩ := induction stays rest later
        exact ⟨earlier + 1, before, congrArg (· + 1) counted, (first earlier).trans run, ending⟩
      · have same : next.depth = origin.depth := congrArg List.length stack
        cases count with
        | zero =>
            cases rest
            exact ⟨0, machine, rfl, rfl, stepped, returns, pc, stack⟩
        | succ count =>
            have := deeper 1 (by omega) next ((first 0).trans rfl)
            omega

/-- A subroutine that has come back to the depth of its call has come back by a return, to the
instruction behind the call and with the stack that was there before.  What happens in between may be
of any length, as long as it stays deeper. -/
theorem call_returns {count : Nat} (size : origin.memory.size = memorySize)
    (call : origin.nextWord.family.val = 0x2) (ran : steps count origin = .ok () last)
    (some : 0 < count)
    (deeper : ∀ taken < count, 0 < taken → ∀ middle, steps taken origin = .ok () middle →
      origin.depth < middle.depth)
    (level : last.depth = origin.depth) :
    ∃ earlier before, earlier + 1 = count ∧ steps earlier origin = .ok () before ∧
      before.step = .ok () last ∧ before.nextWord.toNat = 0x00EE ∧
      last.pc = origin.pc + 2 ∧ last.stack = origin.stack := by
  obtain ⟨rest, rfl⟩ := Nat.exists_eq_succ_of_ne_zero (Nat.ne_of_gt some)
  obtain ⟨entered, stepped, run⟩ := steps_succ_eq_ok ran
  obtain ⟨low, within, inside⟩ := call_enters size call stepped
  have first (taken : Nat) := steps_succ taken stepped
  have later (taken : Nat) (fewer : taken < rest) (middle : Machine)
      (run : steps taken entered = .ok () middle) : origin.depth < middle.depth :=
    deeper (taken + 1) (Nat.succ_lt_succ fewer) (Nat.succ_pos taken) middle ((first taken).trans run)
  obtain ⟨earlier, before, counted, reached, returned, word, pc, stack⟩ :=
    inside.returns run later level
  refine ⟨earlier + 1, before, congrArg (· + 1) counted, (first earlier).trans reached, returned,
    word, ?_, stack⟩
  rw [pc]
  simp only [Bits.lowWord]
  omega

/-- A call of a routine that makes a call itself. -/
theorem nested_call_returns :
    ∃ memory last,
      loaded none [0x22, 0x04, 0x00, 0x00, 0x22, 0x08, 0x00, 0xEE, 0x00, 0xEE] =
        .ok (powered memory) ∧
      memory.size = memorySize ∧ (powered memory).nextWord.family.val = 0x2 ∧
      steps 4 (powered memory) = .ok () last ∧
      (∀ taken < 4, 0 < taken → ∀ middle, steps taken (powered memory) = .ok () middle →
        (powered memory).depth < middle.depth) ∧
      last.depth = (powered memory).depth ∧ last.pc = 0x202 ∧ last.stack = [] := by
  obtain ⟨memory, run, size, bytes⟩ :=
    loaded_ok none [0x22, 0x04, 0x00, 0x00, 0x22, 0x08, 0x00, 0xEE, 0x00, 0xEE] (by simp) (by decide)
  let stage (pc opcode : Int) (stack : List Int) : Machine :=
    { powered memory with pc, opcode, stack }
  have peeked (pc : Nat) (opcode : Int) (stack : List Int) (within : pc + 2 ≤ 0x1000)
      {high low : UInt8} (first : memory.byteAt pc = high) (second : memory.byteAt (pc + 1) = low) :
      (stage pc opcode stack).peek = .ok (Word.ofBytes high low) := by
    have inside : (pc : Int) + 2 ≤ memory.size := by
      rw [size, memorySize]
      omega
    rw [← first, ← second]
    exact peek_within (Int.natCast_nonneg pc) inside
  have outer : (powered memory).step = .ok () (stage 0x204 0x2204 [0x202]) :=
    step_of_execute (peeked 0x200 0 [] (by decide) (bytes _) (bytes _)) rfl rfl rfl
  have inner : (stage 0x204 0x2204 [0x202]).step = .ok () (stage 0x208 0x2208 [0x206, 0x202]) :=
    step_of_execute (peeked 0x204 _ _ (by decide) (bytes _) (bytes _)) rfl rfl rfl
  have back : (stage 0x208 0x2208 [0x206, 0x202]).step = .ok () (stage 0x206 0x00EE [0x202]) := by
    have executed : ((stage 0x208 0x2208 [0x206, 0x202]).fetched (.ofBytes 0x00 0xEE)).execute .ret =
        .ok (stage 0x206 0x00EE [0x202]) := rfl
    exact step_of_execute (peeked 0x208 _ _ (by decide) (bytes _) (bytes _)) rfl rfl executed
  have out : (stage 0x206 0x00EE [0x202]).step = .ok () (stage 0x202 0x00EE []) := by
    have executed : ((stage 0x206 0x00EE [0x202]).fetched (.ofBytes 0x00 0xEE)).execute .ret =
        .ok (stage 0x202 0x00EE []) := rfl
    exact step_of_execute (peeked 0x206 _ _ (by decide) (bytes _) (bytes _)) rfl rfl executed
  have ran : steps 4 (powered memory) = .ok () (stage 0x202 0x00EE []) := by
    rw [steps_succ 3 outer, steps_succ 2 inner, steps_succ 1 back, steps_succ 0 out, steps]
  have call : (powered memory).nextWord.family.val = 0x2 := by
    change (Word.ofBytes (memory.byteAt 0x200) (memory.byteAt 0x201)).family.val = 0x2
    rw [bytes, bytes]
    rfl
  have deeper : ∀ taken < 4, 0 < taken → ∀ middle,
      steps taken (powered memory) = .ok () middle → (powered memory).depth < middle.depth := by
    intro taken fewer some middle reached
    obtain rfl | rfl | rfl : taken = 1 ∨ taken = 2 ∨ taken = 3 := by omega
    · rw [steps_succ 0 outer] at reached
      cases reached
      exact Nat.succ_pos _
    · rw [steps_succ 1 outer, steps_succ 0 inner] at reached
      cases reached
      exact Nat.succ_pos _
    · rw [steps_succ 2 outer, steps_succ 1 inner, steps_succ 0 back] at reached
      cases reached
      exact Nat.succ_pos _
  obtain ⟨earlier, before, -, -, -, -, pc, stack⟩ :=
    call_returns size call ran (by decide) deeper rfl
  exact ⟨memory, _, run, size, call, ran, deeper, rfl, pc, stack⟩

end ChipEight.Machine
