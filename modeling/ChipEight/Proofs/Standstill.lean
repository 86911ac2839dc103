import ChipEight.Proofs.CallReturn
import ChipEight.Proofs.Footprint
import ChipEight.Proofs.ListingAgreement

namespace ChipEight

/-! Programs that stand still.

Only a jump to its own address leaves a machine as it was.  All else moves the program counter on,
or the stack: a call to itself grows it, and a return to itself shrinks it.  A step never writes to
memory, so such a jump is still there when it is fetched again.
-/

/-- Of all comments, this one stands at a jump to itself and nowhere else. -/
theorem Instruction.comment_eq_loop_iff (instruction : Instruction) (address : Int) :
    (instruction.wording address).comment = "infinite loop" ↔
      ∃ target, instruction = .jump target ∧ (target.val : Int) = address := by
  cases instruction with
  | jump target =>
      simp only [wording, jump.injEq, exists_eq_left']
      split
      · next same => simp [same]
      · next other => simp [other]
  | point target =>
      have glyph (digit : Nat) : "font glyph " ++ Text.hex 1 digit ≠ "infinite loop" := by
        intro same
        have first := congrArg (fun text : String => text.toList.head?) same
        simp [String.toList_append] at first
      simp only [wording, glyphComment, reduceCtorEq, false_and, exists_false, iff_false]
      split
      · exact glyph _
      · simp
  | _ => simp [wording]

theorem Listing.ofPair_comment_iff (address : Int) (high low : UInt8) :
    (Item.ofPair address high low).wording.comment = "infinite loop" ↔
      ∃ target, Instruction.ofWord? (Word.ofBytes high low) = some (.jump target) ∧
        (target.val : Int) = address := by
  cases decoded : Instruction.ofWord? (Word.ofBytes high low) with
  | none => simp [Item.ofPair, decoded]
  | some instruction =>
      simp only [Item.ofPair, decoded, instruction.comment_eq_loop_iff, Option.some.injEq]

namespace Machine

variable {machine after last : Machine} {target : Target}

/-- The machine but for its timers and what it notes of its last instruction. -/
structure Unmoved (after machine : Machine) : Prop where
  pc : after.pc = machine.pc
  stack : after.stack = machine.stack
  registers : after.registers = machine.registers
  index : after.index = machine.index
  memory : after.memory = machine.memory
  screen : after.screen = machine.screen

theorem Unmoved.refl (machine : Machine) : machine.Unmoved machine := ⟨rfl, rfl, rfl, rfl, rfl, rfl⟩

theorem Unmoved.trans (later : last.Unmoved after) (once : after.Unmoved machine) :
    last.Unmoved machine where
  pc := later.pc.trans once.pc
  stack := later.stack.trans once.stack
  registers := later.registers.trans once.registers
  index := later.index.trans once.index
  memory := later.memory.trans once.memory
  screen := later.screen.trans once.screen

/-- The next instruction jumps to where it stands itself. -/
structure Loops (machine : Machine) (target : Target) : Prop where
  counter : machine.pc = target.val
  within : machine.pc + 2 ≤ machine.memory.size
  jump : Instruction.ofWord? machine.nextWord = some (.jump target)

theorem Loops.step (loops : machine.Loops target) :
    ∃ after, machine.step = .ok () after ∧ after.Unmoved machine := by
  have low : 0 ≤ machine.pc := loops.counter ▸ Int.natCast_nonneg target.val
  have vetted : machine.vet machine.nextWord = .ok () := vet_word loops.jump
  have stepped := step_of_execute (peek_within low loops.within) vetted loops.jump rfl
  have short := target.isLt
  have same : Bits.lowWord target.val = machine.pc := by
    rw [loops.counter, Bits.lowWord]
    omega
  exact ⟨_, stepped, same, rfl, rfl, rfl, rfl, rfl⟩

/-- What is fetched next depends on no more than the program counter and memory. -/
theorem Loops.of_unmoved (loops : machine.Loops target) (unmoved : after.Unmoved machine) :
    after.Loops target where
  counter := unmoved.pc.trans loops.counter
  within := by
    rw [unmoved.pc, unmoved.memory]
    exact loops.within
  jump := by
    rw [nextWord, unmoved.pc, unmoved.memory]
    exact loops.jump

theorem Loops.steps (loops : machine.Loops target) (count : Nat) :
    ∃ last, steps count machine = .ok () last ∧ last.Unmoved machine := by
  induction count generalizing machine with
  | zero => exact ⟨machine, rfl, .refl machine⟩
  | succ count induction =>
      obtain ⟨next, stepped, once⟩ := loops.step
      obtain ⟨last, ran, later⟩ := induction (loops.of_unmoved once)
      exact ⟨last, (steps_succ count stepped).trans ran, later.trans once⟩

theorem Effect.jumped (effect : Effect machine (.jump target) after) : after.pc = target.val := by
  cases effect with
  | jump =>
      have short := target.isLt
      simp only [setPc, Bits.lowWord]
      omega
  | skip skips moved => cases skips
  | store stores count => cases stores

/-- The fetch moves the program counter on, and only a jump takes it back without the stack. -/
theorem Effect.jump_of_unmoved {instruction : Instruction} {pc : Int}
    (effect : Effect machine instruction after) (range : 0 ≤ pc ∧ pc ≤ 0xFFE)
    (fetched : machine.pc = pc + 2) (counter : after.pc = pc)
    (stack : after.stack = machine.stack) :
    ∃ target, instruction = .jump target ∧ (target.val : Int) = pc := by
  cases jumps : instruction.jumps with
  | false =>
      obtain ⟨low, within⟩ := range
      have moved := effect.counter jumps
      rw [counter, fetched, Bits.lowWord] at moved
      omega
  | true =>
      cases instruction with
      | ret =>
          obtain ⟨address, popped⟩ := effect.popped
          rw [stack] at popped
          exact absurd popped.symm (List.cons_ne_self address _)
      | call target =>
          have pushed := effect.pushed
          rw [stack] at pushed
          exact absurd pushed.symm (List.cons_ne_self _ _)
      | jump target => exact ⟨target, rfl, effect.jumped.symm.trans counter⟩
      | _ => cases jumps

theorem unmoved_iff_loops (within : machine.pc ≤ 0xFFE) (stepped : machine.step = .ok () after) :
    after.Unmoved machine ↔ ∃ target, machine.Loops target := by
  constructor
  · intro unmoved
    obtain ⟨word, instruction, executed, peeked, -, decoded, execution, rfl⟩ := step_eq_ok stepped
    obtain ⟨low, inside, rfl⟩ := peek_eq_ok peeked
    have next : (machine.fetched machine.nextWord).pc = machine.pc + 2 := by
      rw [fetched_pc, Bits.lowWord]
      omega
    obtain ⟨target, rfl, same⟩ := (execute_effect execution).jump_of_unmoved ⟨low, within⟩ next
      unmoved.pc unmoved.stack
    exact ⟨target, same.symm, inside, decoded⟩
  · rintro ⟨target, loops⟩
    obtain ⟨next, same, unmoved⟩ := loops.step
    cases stepped.symm.trans same
    exact unmoved

/-- What a listing shows of the next word, at the address where it stands. -/
def nextItem (machine : Machine) : Listing.Item :=
  .ofPair machine.pc (machine.memory.byteAt machine.pc.toNat)
    (machine.memory.byteAt (machine.pc.toNat + 1))

theorem nextItem_comment_iff (inside : machine.pc + 2 ≤ machine.memory.size) :
    machine.nextItem.wording.comment = "infinite loop" ↔ ∃ target, machine.Loops target := by
  rw [nextItem, Listing.ofPair_comment_iff]
  constructor
  · rintro ⟨target, jump, same⟩
    exact ⟨target, same.symm, inside, jump⟩
  · rintro ⟨target, loops⟩
    exact ⟨target, loops.jump, loops.counter.symm⟩

/-- The comment on an endless loop stands exactly at the instructions that leave the machine where
it is, timers apart, and there it stays for good. -/
theorem loop_comment_exact (within : machine.pc ≤ 0xFFE) (stepped : machine.step = .ok () after) :
    ∃ bytes item, machine.memory.readBlock machine.pc 2 = .ok bytes ∧
      (∀ front back,
        Listing.itemAt (front ++ (bytes ++ back)) machine.pc front.length = .ok item) ∧
      (item.wording.comment = "infinite loop" ↔ after.Unmoved machine) ∧
      (item.wording.comment = "infinite loop" →
        ∀ count, ∃ last, steps count after = .ok () last ∧ last.Unmoved machine) := by
  obtain ⟨word, -, -, peeked, -⟩ := step_eq_ok stepped
  obtain ⟨low, inside, -⟩ := peek_eq_ok peeked
  have loops := nextItem_comment_iff inside
  have stands := unmoved_iff_loops within stepped
  refine ⟨_, machine.nextItem, Memory.readBlock_pair low inside,
    fun front back => Listing.itemAt_pair .., loops.trans stands.symm, fun comment count => ?_⟩
  obtain ⟨target, jump⟩ := loops.1 comment
  have once := stands.2 ⟨target, jump⟩
  obtain ⟨last, ran, later⟩ := (jump.of_unmoved once).steps count
  exact ⟨last, ran, later.trans once⟩

/-- A machine with a timer at one and an address on its stack jumps to where it is.  The timer runs
out, and after a thousand more steps nothing else is any different. -/
theorem jump_stands_still :
    ∃ machine after last : Machine, machine.pc ≤ 0xFFE ∧ machine.step = .ok () after ∧
      machine.stack = [0x300] ∧ machine.delay = 1 ∧ after.delay = 0 ∧
      steps 1000 after = .ok () last ∧ last.Unmoved machine := by
  obtain ⟨memory, -, size, bytes⟩ := loaded_ok none [0x12, 0x00] (by simp) (by decide)
  let machine : Machine := { powered memory with stack := [0x300], delay := 1 }
  let after : Machine := { machine with opcode := 0x1200, delay := 0 }
  have within : machine.pc ≤ 0xFFE := (by decide : (0x200 : Int) ≤ 0xFFE)
  have peeked : machine.peek = .ok (.ofBytes 0x12 0x00) :=
    peek_of_bytes (rfl : machine.pc = (0x200 : Nat)) size (by decide) (bytes _) (bytes _)
  have stepped : machine.step = .ok () after := step_of_execute peeked rfl rfl rfl
  obtain ⟨pair, item, -, -, marked, forever⟩ := loop_comment_exact within stepped
  have comment := marked.2 ⟨rfl, rfl, rfl, rfl, rfl, rfl⟩
  obtain ⟨last, ran, unmoved⟩ := forever comment 1000
  exact ⟨machine, after, last, within, stepped, rfl, rfl, rfl, ran, unmoved⟩

end Machine

end ChipEight
