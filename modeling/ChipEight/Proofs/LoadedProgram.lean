import ChipEight.Proofs.Loading
import ChipEight.Proofs.Step

namespace ChipEight.Machine

/-! Programs that run from power-on, with nothing written from outside.

No instruction writes memory, so what has been loaded stays, and every return
address on the stack still follows the call that pushed it.  The index then never
leaves memory, and the faults of the next step are those of `refusal?` alone.
-/

variable {image : Memory} {machine after : Machine}

/-- An address right after a call. -/
def FollowsCall (image : Memory) (address : Int) : Prop :=
  2 ≤ address ∧ address ≤ 0x1000 ∧ (image.wordAt (address - 2).toNat).family.val = 0x2

structure Running (image : Memory) (machine : Machine) : Prop where
  formed : machine.WellFormed
  memory : machine.memory = image
  index : machine.index ≤ 0xFFF
  pc : machine.pc ≤ 0x1002
  delay : machine.delay = 0
  sound : machine.sound = 0
  stack : ∀ address ∈ machine.stack, FollowsCall image address

theorem Running.powered (size : image.size = memorySize) : Running image (powered image) where
  formed := powered_wellFormed size
  memory := rfl
  index := by
    change (0 : Int) ≤ 0xFFF
    decide
  pc := by
    change (0x200 : Int) ≤ 0x1002
    decide
  delay := rfl
  sound := rfl
  stack := by
    intro address member
    cases member

theorem WellFormed.peek_eq_ok (formed : machine.WellFormed) {word : Word}
    (peeked : machine.peek = .ok word) : machine.pc ≤ 0xFFE ∧ word = machine.nextWord := by
  have size : machine.memory.size = 0x1000 := formed.memory
  obtain ⟨-, within, same⟩ := Machine.peek_eq_ok peeked
  exact ⟨by omega, same⟩

theorem followsCall_next (low : 0 ≤ machine.pc) (within : machine.pc ≤ 0xFFE)
    (call : machine.nextWord.family.val = 0x2) : FollowsCall machine.memory (machine.pc + 2) := by
  refine ⟨by omega, by omega, ?_⟩
  rw [Int.add_sub_cancel]
  exact call

theorem Running.step (running : Running image machine) (stepped : machine.step = .ok () after) :
    Running image after := by
  obtain ⟨word, instruction, executed, peeked, -, decoded, execution, rfl⟩ := step_eq_ok stepped
  obtain ⟨within, rfl⟩ := running.formed.peek_eq_ok peeked
  have low := running.formed.pc.1
  have effect := execute_effect execution
  have next : (machine.fetched machine.nextWord).pc = machine.pc + 2 := by
    simp only [fetched_pc, Bits.lowWord]
    omega
  exact
    { formed := running.formed.step stepped
      memory := effect.memory.trans running.memory
      index := by
        have before := running.index
        change executed.index ≤ 0xFFF
        rcases effect.index with same | ⟨target, masked⟩
        · rw [same, fetched_index]
          exact before
        · have := target.isLt
          simp only [masked, Bits.lowWord]
          omega
      pc := by
        change executed.pc ≤ 0x1002
        rcases effect.pc with same | masked | ⟨target, masked⟩ | ⟨address, member, masked⟩
        · omega
        · simp only [masked, next, Bits.lowWord]
          omega
        · have := target.isLt
          simp only [masked, Bits.lowWord]
          omega
        · obtain ⟨positive, inside, -⟩ := running.stack address member
          simp only [masked, Bits.lowWord]
          omega
      delay := by
        simp only [tick, effect.delay]
        exact congrArg tickTimer running.delay
      sound := by
        simp only [tick, effect.sound]
        exact congrArg tickTimer running.sound
      stack := by
        intro address member
        change address ∈ executed.stack at member
        rcases effect.stack with same | ⟨target, rfl, pushed⟩ | ⟨-, top, popped⟩
        · rw [same] at member
          exact running.stack address member
        · rw [pushed] at member
          rcases List.mem_cons.1 member with rfl | member
          · have call := (Instruction.ofWord?_eq_call_iff.1 decoded).1
            rw [next, ← running.memory]
            exact followsCall_next low within call
          · exact running.stack address member
        · exact running.stack address (popped ▸ List.mem_cons_of_mem top member) }

theorem Running.steps (running : Running image machine) {count : Nat}
    (ran : steps count machine = .ok () after) : Running image after := by
  induction count generalizing machine with
  | zero =>
      cases ran
      exact running
  | succ count induction =>
      obtain ⟨next, stepped, rest⟩ := steps_succ_eq_ok ran
      exact induction (running.step stepped) rest

theorem Running.drawable (running : Running image machine) : ¬ machine.EmptySpriteBeyond := by
  intro beyond
  have := running.index
  have := beyond.2.2.2
  omega

theorem Running.next (running : Running image machine) :
    match machine.refusal? with
    | some fault => machine.step = .error fault machine
    | none => ∃ after, machine.step = .ok () after := by
  split
  · next refused => exact running.formed.step_refused refused
  · next admitted => exact running.formed.step_completes admitted running.drawable

theorem Running.step_error {left : Machine} {fault : Fault} (running : Running image machine)
    (failed : machine.step = .error fault left) : left = machine := by
  have next := running.next
  cases refused : machine.refusal? with
  | some reason =>
      simp only [refused] at next
      cases next.symm.trans failed
      rfl
  | none =>
      simp only [refused] at next
      obtain ⟨after, completed⟩ := next
      cases completed.symm.trans failed

/-- A program that fits is loaded behind the font and runs for as long as nothing refuses a step.

In every state that a run comes to, either there is one of the reasons to refuse the next word, and
the step fails with it and changes nothing, or the step is made. -/
theorem loaded_program_runs {font : Option (List UInt8)} {program : List UInt8}
    (glyphs : ∀ table, font = some table → table.length = 80) (room : program.length ≤ 3584) :
    ∃ memory, loaded font program = .ok (powered memory) ∧ memory.size = 0x1000 ∧
      (∀ place, memory.byteAt place = imageByte font program place) ∧
      ∀ count machine, steps count (powered memory) = .ok () machine →
        Running memory machine ∧
        match machine.refusal? with
        | some fault => machine.step = .error fault machine
        | none => ∃ after, machine.step = .ok () after := by
  obtain ⟨memory, run, size, bytes⟩ := loaded_ok font program glyphs room
  refine ⟨memory, run, size, bytes, fun count machine ran => ?_⟩
  have running := (Running.powered size).steps ran
  exact ⟨running, running.next⟩

/-- A program that does nothing but call itself, and so fills the stack. -/
theorem loaded_call_runs :
    (∀ table, some Font.glyphs = some table → table.length = 80) ∧
      [(0x22 : UInt8), 0x00].length ≤ 3584 ∧
      ∃ memory, loaded (some Font.glyphs) [0x22, 0x00] = .ok (powered memory) ∧
        ∀ count machine, steps count (powered memory) = .ok () machine →
          ∀ address ∈ machine.stack, FollowsCall memory address := by
  have glyphs (table : List UInt8) (same : some Font.glyphs = some table) : table.length = 80 := by
    cases same
    rfl
  have room : [(0x22 : UInt8), 0x00].length ≤ 3584 := by decide
  obtain ⟨memory, run, -, -, runs⟩ := loaded_program_runs glyphs room
  exact ⟨glyphs, room, memory, run, fun count machine ran => (runs count machine ran).1.stack⟩

end ChipEight.Machine
