import ChipEight.Proofs.Loading
import ChipEight.Proofs.Step

namespace ChipEight

/-! What a step can change.

Each part of the machine is written by a few families of words and left alone by all others.  A
register is written as the first operand or, for a flag, as the last register.  The timers are not
among the parts an instruction writes: every step counts both of them down.
-/

namespace Word

variable (word : Word)

/-- The word clears the screen or draws on it. -/
def Draws : Prop := word.toNat = 0x00E0 ∨ word.family.val = 0xD

def Skips : Prop := word.family.val ∈ [0x3, 0x4, 0x5, 0x9]

/-- The next word is not one of the two that follow. -/
def Jumps : Prop := word.family.val = 0x1 ∨ word.family.val = 0x2 ∨ word.toNat = 0x00EE

/-- The word has a result for the register it names first. -/
def Stores : Prop := word.family.val ∈ [0x6, 0x7, 0x8]

/-- The word has a flag for the last register, whatever registers it names. -/
def Flags : Prop :=
  word.family.val = 0x8 ∧ word.n.val ∈ [0x4, 0x5, 0x6, 0x7, 0xE] ∨ word.family.val = 0xD

def Writes (r : Nibble) : Prop :=
  r = word.x ∧ word.Stores ∨ r = Machine.flagRegister ∧ word.Flags

end Word

def Operation.setsFlag : Operation → Bool
  | .add | .sub | .shiftRight | .subFrom | .shiftLeft => true
  | .copy | .or | .and | .xor => false

theorem Operation.isSome_apply (operation : Operation) (left right : UInt8) :
    (operation.apply left right).2.isSome = operation.setsFlag := by
  cases operation <;> rfl

theorem Operation.setsFlag_iff (operation : Operation) :
    operation.setsFlag = true ↔ operation.nibble ∈ [0x4, 0x5, 0x6, 0x7, 0xE] := by
  cases operation <;> decide

namespace Instruction

variable {instruction : Instruction} {word : Word} {r : Nibble}

def draws : Instruction → Bool
  | .clear | .draw .. => true
  | _ => false

def jumps : Instruction → Bool
  | .ret | .jump _ | .call _ => true
  | _ => false

/-- The register that an instruction has a result for. -/
def result? : Instruction → Option Nibble
  | .load x _ | .add x _ | .operate _ x _ => some x
  | _ => none

def setsFlag : Instruction → Bool
  | .operate operation .. => operation.setsFlag
  | .draw .. => true
  | _ => false

theorem isSome_result? (instruction : Instruction) :
    instruction.result?.isSome = instruction.stores := by
  cases instruction <;> rfl

theorem draws_iff (decoded : ofWord? word = some instruction) :
    instruction.draws = true ↔ word.Draws := by
  simp only [Word.Draws, toNat_eq_clear_iff decoded, family_ofWord? decoded]
  cases instruction <;> simp [draws, family]

theorem jumps_iff (decoded : ofWord? word = some instruction) :
    instruction.jumps = true ↔ word.Jumps := by
  simp only [Word.Jumps, toNat_eq_ret_iff decoded, family_ofWord? decoded]
  cases instruction <;> simp [jumps, family]

theorem skips_iff (decoded : ofWord? word = some instruction) :
    instruction.skips = true ↔ word.Skips := by
  simp only [Word.Skips, family_ofWord? decoded]
  cases instruction <;> simp [skips, family]

theorem result?_ofWord? (decoded : ofWord? word = some instruction)
    (result : instruction.result? = some r) : r = word.x ∧ word.Stores := by
  have made := encode_ofWord? decoded
  simp only [Word.Stores, family_ofWord? decoded]
  cases instruction with
  | load x byte | add x byte =>
      have := byte.toNat_lt
      cases result
      refine ⟨?_, by simp [family]⟩
      simp only [Fin.ext_iff, Word.x, encode] at made ⊢
      omega
  | operate operation x y =>
      cases result
      refine ⟨?_, by simp [family]⟩
      cases operation <;>
        simp only [Fin.ext_iff, Word.x, encode, Operation.nibble] at made ⊢ <;>
        omega
  | _ => cases result

theorem setsFlag_iff (decoded : ofWord? word = some instruction) :
    instruction.setsFlag = true ↔ word.Flags := by
  have made := encode_ofWord? decoded
  simp only [Word.Flags, family_ofWord? decoded]
  cases instruction with
  | operate operation x y =>
      have nibble : word.n.val = operation.nibble := by
        cases operation <;> simp only [Word.n, encode, Operation.nibble] at made ⊢ <;> omega
      simp [setsFlag, family, nibble, operation.setsFlag_iff]
  | _ => simp [setsFlag, family]

end Instruction

namespace Machine

variable {machine after : Machine} {instruction : Instruction} {word : Word} {r x y : Nibble}

theorem value_set_ne (apart : x ≠ r) (byte : UInt8) :
    ({ machine with registers := machine.registers.set x.val byte } : Machine).value r =
      machine.value r := by
  have places : x.val ≠ r.val := fun same => apart (Fin.ext same)
  simp only [value, List.getD_eq_getElem?_getD, List.getElem?_set_ne places]

theorem WellFormed.value_set (formed : machine.WellFormed) (x : Nibble) (byte : UInt8) :
    ({ machine with registers := machine.registers.set x.val byte } : Machine).value x = byte := by
  simp only [value, List.getD_eq_getElem?_getD, List.getElem?_set_self (formed.register_lt x),
    Option.getD_some]

theorem operate_value {operation : Operation}
    (operated : machine.operate operation x y = .ok after) (result : x ≠ r)
    (flag : operation.setsFlag = true → flagRegister ≠ r) : after.value r = machine.value r := by
  simp only [operate, bind_eq_ok_iff] at operated
  obtain ⟨left, -, right, -, stored, written, flagged⟩ := operated
  cases setRegister_eq_ok written
  split at flagged
  · next set =>
    cases setRegister_eq_ok flagged
    have sets : operation.setsFlag = true := by
      rw [← operation.isSome_apply left right, set, Option.isSome_some]
    exact (value_set_ne (flag sets) _).trans (value_set_ne result _)
  · cases flagged
    exact value_set_ne result _

namespace Effect

theorem screen (effect : Effect machine instruction after) (draws : instruction.draws = false) :
    after.screen = machine.screen := by
  cases effect with
  | clear => cases draws
  | draw x y rows count shape => cases draws
  | _ => rfl

theorem updated (effect : Effect machine instruction after) :
    after.updated = (instruction.draws || machine.updated) := by
  cases effect with
  | clear | draw x y rows count shape => rfl
  | skip skips moved => cases instruction <;> first | rfl | cases skips
  | store stores count => cases instruction <;> first | rfl | cases stores
  | _ => rfl

theorem registers (effect : Effect machine instruction after) (result : instruction.result? = none)
    (flag : instruction.setsFlag = false) : after.registers = machine.registers := by
  cases effect with
  | draw x y rows count shape => cases flag
  | store stores count =>
      rw [← instruction.isSome_result?, result] at stores
      cases stores
  | _ => rfl

theorem pushed {target : Target} (effect : Effect machine (.call target) after) :
    after.stack = machine.pc :: machine.stack := by
  cases effect with
  | call => rfl
  | skip skips moved => cases skips
  | store stores count => cases stores

theorem popped (effect : Effect machine .ret after) :
    ∃ address, machine.stack = address :: after.stack := by
  cases effect with
  | ret top => exact ⟨_, top⟩
  | skip skips moved => cases skips
  | store stores count => cases stores

theorem pointer (effect : Effect machine instruction after) (family : instruction.family ≠ 0xA) :
    after.index = machine.index := by
  cases effect with
  | point target => exact absurd rfl family
  | _ => rfl

theorem counter (effect : Effect machine instruction after) (jumps : instruction.jumps = false) :
    after.pc = machine.pc ∨
      instruction.skips = true ∧ after.pc = Bits.lowWord (machine.pc + 2) := by
  cases effect with
  | ret top => cases jumps
  | jump target | call target => cases jumps
  | skip skips moved => exact moved.imp_right fun moved => ⟨skips, moved⟩
  | _ => exact .inl rfl

end Effect

/-- Where a register is neither the result's nor the flag's, it keeps its value. -/
theorem execute_value (executed : machine.execute instruction = .ok after)
    (result : instruction.result? ≠ some r)
    (flag : instruction.setsFlag = true → flagRegister ≠ r) : after.value r = machine.value r := by
  cases instruction with
  | load x byte =>
      cases setRegister_eq_ok executed
      exact value_set_ne (fun same => result (congrArg some same)) _
  | add x byte =>
      simp only [execute, bind_eq_ok_iff] at executed
      obtain ⟨left, -, written⟩ := executed
      cases setRegister_eq_ok written
      exact value_set_ne (fun same => result (congrArg some same)) _
  | operate operation x y =>
      exact operate_value executed (fun same => result (congrArg some same)) flag
  | draw x y rows =>
      obtain ⟨left, top, sprite, bit, -, -, -, -, rfl⟩ := drawSprite_eq_ok executed
      exact value_set_ne (flag rfl) _
  | _ =>
      have kept := (execute_effect executed).registers rfl rfl
      simp only [value, kept]

@[simp] theorem fetched_updated : (machine.fetched word).updated = false := rfl

theorem step_updated_iff (peeked : machine.peek = .ok word)
    (stepped : machine.step = .ok () after) : after.updated = true ↔ word.Draws := by
  obtain ⟨_, instruction, executed, same, -, decoded, execution, rfl⟩ := step_eq_ok stepped
  cases peeked.symm.trans same
  have updated := (execute_effect execution).updated
  rw [fetched_updated, Bool.or_false] at updated
  rw [← Instruction.draws_iff decoded, ← updated]
  rfl

/-- What a step with a word does to each part of the machine, and what it keeps of it. -/
structure Footprint (machine : Machine) (word : Word) (after : Machine) : Prop where
  memory : after.memory = machine.memory
  screen : ¬ word.Draws → after.screen = machine.screen
  updated : after.updated = true ↔ word.Draws
  pushed : word.family.val = 0x2 → after.stack = (machine.pc + 2) :: machine.stack
  popped : word.toNat = 0x00EE → ∃ address, machine.stack = address :: after.stack
  stack : word.family.val ≠ 0x2 → word.toNat ≠ 0x00EE → after.stack = machine.stack
  index : word.family.val ≠ 0xA → after.index = machine.index
  count : after.registers.length = machine.registers.length
  registers : ∀ r, ¬ word.Writes r → after.value r = machine.value r
  opcode : after.opcode = word.toNat
  pc : ¬ word.Jumps → after.pc = machine.pc + 2 ∨ word.Skips ∧ after.pc = machine.pc + 4

theorem WellFormed.footprint (formed : machine.WellFormed)
    (stepped : machine.step = .ok () after) : Footprint machine machine.nextWord after := by
  obtain ⟨word, instruction, executed, peeked, -, decoded, execution, last⟩ := step_eq_ok stepped
  obtain ⟨low, within, rfl⟩ := peek_eq_ok peeked
  have updated := step_updated_iff peeked stepped
  subst last
  rw [formed.memory, memorySize] at within
  have effect := execute_effect execution
  have family := Instruction.family_ofWord? decoded
  have ret := Instruction.toNat_eq_ret_iff decoded
  have next : (machine.fetched machine.nextWord).pc = machine.pc + 2 := by
    rw [fetched_pc, Bits.lowWord]
    omega
  constructor
  case memory => exact effect.memory
  case screen =>
    intro calm
    exact effect.screen (Bool.eq_false_iff.2 (mt (Instruction.draws_iff decoded).1 calm))
  case updated => exact updated
  case pushed =>
    intro call
    cases decoded.symm.trans (Instruction.ofWord?_eq_call_iff.2 ⟨call, rfl⟩)
    rw [← next]
    exact effect.pushed
  case popped =>
    intro same
    cases ret.1 same
    exact effect.popped
  case stack =>
    intro notCall notRet
    rcases effect.stack with kept | ⟨target, rfl, -⟩ | ⟨rfl, -⟩
    · exact kept
    · exact absurd family notCall
    · exact absurd (ret.2 rfl) notRet
  case index =>
    intro other
    exact effect.pointer (family ▸ other)
  case count => exact effect.registerCount
  case registers =>
    intro r spared
    have kept : executed.value r = (machine.fetched machine.nextWord).value r := by
      refine execute_value execution (fun result => ?_) (fun sets same => ?_)
      · exact spared (.inl (Instruction.result?_ofWord? decoded result))
      · exact spared (.inr ⟨same.symm, (Instruction.setsFlag_iff decoded).1 sets⟩)
    exact kept
  case opcode => exact effect.opcode
  case pc =>
    intro straight
    have jumps := Bool.eq_false_iff.2 (mt (Instruction.jumps_iff decoded).1 straight)
    rw [← Instruction.skips_iff decoded]
    rcases effect.counter jumps with kept | ⟨skips, moved⟩
    · exact .inl (kept.trans next)
    · refine .inr ⟨skips, moved.trans ?_⟩
      rw [next, Bits.lowWord]
      omega

/-! ### Timers -/

theorem tickTimer_eq {value : Int} (range : 0 ≤ value ∧ value < 0x100) :
    tickTimer value = max (value - 1) 0 := by
  rw [tickTimer]
  split <;> omega

theorem WellFormed.step_timers (formed : machine.WellFormed)
    (stepped : machine.step = .ok () after) :
    after.delay = max (machine.delay - 1) 0 ∧ after.sound = max (machine.sound - 1) 0 := by
  obtain ⟨word, instruction, executed, -, -, -, execution, rfl⟩ := step_eq_ok stepped
  have effect := execute_effect execution
  rw [← tickTimer_eq formed.delay, ← tickTimer_eq formed.sound]
  exact ⟨congrArg tickTimer effect.delay, congrArg tickTimer effect.sound⟩

theorem WellFormed.steps_timers (formed : machine.WellFormed) {count : Nat}
    (ran : Machine.steps count machine = .ok () after) :
    after.delay = max (machine.delay - count) 0 ∧ after.sound = max (machine.sound - count) 0 := by
  induction count generalizing machine with
  | zero =>
      cases ran
      have delay := formed.delay
      have sound := formed.sound
      omega
  | succ count induction =>
      obtain ⟨next, stepped, rest⟩ := steps_succ_eq_ok ran
      have once := formed.step_timers stepped
      have later := induction (formed.step stepped) rest
      omega

/-- A step changes only what its instruction is for, component by component, and both timers run
down to zero by one in every step. -/
theorem step_footprint (formed : machine.WellFormed) :
    (∀ after, machine.step = .ok () after → Footprint machine machine.nextWord after) ∧
      ∀ count after, steps count machine = .ok () after →
        after.delay = max (machine.delay - count) 0 ∧
          after.sound = max (machine.sound - count) 0 :=
  ⟨fun _ => formed.footprint, fun _ _ => formed.steps_timers⟩

/-- The last register is added to itself and keeps the carry; the skip that then takes place is
the second tick of a timer that was at one. -/
theorem footprint_of_carry :
    ∃ machine next last : Machine, machine.WellFormed ∧ machine.step = .ok () next ∧
      steps 2 machine = .ok () last ∧ machine.value 15 = 0x90 ∧ next.value 15 = 1 ∧
      (∀ r, r ≠ 15 → next.value r = machine.value r) ∧ next.screen = machine.screen ∧
      next.updated = false ∧ next.pc = machine.pc + 2 ∧ machine.delay = 1 ∧ last.delay = 0 ∧
      machine.sound = 200 ∧ last.sound = 198 := by
  obtain ⟨memory, -, size, bytes⟩ :=
    loaded_ok none [0x8F, 0xF4, 0x4F, 0x00] (by simp) (by decide)
  let machine : Machine :=
    { powered memory with registers := (List.replicate 16 0).set 15 0x90, delay := 1, sound := 200 }
  let next : Machine :=
    { machine with
      pc := 0x202, opcode := 0x8FF4, delay := 0, sound := 199
      registers := (List.replicate 16 0).set 15 1 }
  let last : Machine := { next with pc := 0x206, opcode := 0x4F00, sound := 198 }
  have formed : machine.WellFormed :=
    { powered_wellFormed size with
      registers := rfl
      delay := (by decide : (0 : Int) ≤ 1 ∧ (1 : Int) < 0x100)
      sound := (by decide : (0 : Int) ≤ 200 ∧ (200 : Int) < 0x100) }
  have word : machine.nextWord = .ofBytes 0x8F 0xF4 :=
    nextWord_of_bytes (rfl : machine.pc = (0x200 : Nat)) (bytes _) (bytes _)
  have stepped : machine.step = .ok () next := by
    have peeked : machine.peek = .ok (.ofBytes 0x8F 0xF4) :=
      peek_of_bytes (rfl : machine.pc = (0x200 : Nat)) size (by decide) (bytes _) (bytes _)
    exact step_of_execute peeked rfl rfl rfl
  have skipped : next.step = .ok () last := by
    have peeked : next.peek = .ok (.ofBytes 0x4F 0x00) :=
      peek_of_bytes (rfl : next.pc = (0x202 : Nat)) size (by decide) (bytes _) (bytes _)
    exact step_of_execute peeked rfl rfl rfl
  have ran : steps 2 machine = .ok () last := by
    rw [steps_succ 1 stepped, steps_succ 0 skipped, steps]
  obtain ⟨footprint, timers⟩ := step_footprint formed
  obtain ⟨delay, sound⟩ := timers 2 last ran
  have changed := footprint next stepped
  rw [word] at changed
  have calm : ¬ (Word.ofBytes 0x8F 0xF4).Draws := by
    rintro (clears | draws)
    · cases clears
    · cases draws
  refine ⟨machine, next, last, formed, stepped, ran, rfl, rfl, ?_, changed.screen calm, rfl, rfl,
    rfl, delay, rfl, sound⟩
  intro r apart
  refine changed.registers r ?_
  rintro (⟨same, -⟩ | ⟨same, -⟩)
  · exact apart same
  · exact apart same

end Machine

end ChipEight
