import ChipEight.Machine.Execute
import ChipEight.Proofs.Result

namespace ChipEight

/-! What an instruction does to each part of the machine, and when it gets to its
end.

Only the return and the drawing of a sprite can fail.  All other instructions
need no more than the sixteen registers.
-/

namespace Screen

/-- Two pictures of one size, row by row. -/
structure SameShape (left right : Screen) : Prop where
  width : left.width = right.width
  height : left.height = right.height
  rows : left.rows.map List.length = right.rows.map List.length

theorem SameShape.length_rows {left right : Screen} (shape : left.SameShape right) :
    left.rows.length = right.rows.length := by
  have counts := congrArg List.length shape.rows
  rwa [List.length_map, List.length_map] at counts

theorem SameShape.columns {left right : Screen} (shape : left.SameShape right) {length : Nat}
    (columns : ∀ row ∈ right.rows, row.length = length) : ∀ row ∈ left.rows, row.length = length := by
  intro row member
  have inMap : row.length ∈ left.rows.map List.length := List.mem_map_of_mem member
  rw [shape.rows] at inMap
  obtain ⟨other, member, same⟩ := List.mem_map.1 inMap
  exact same.symm.trans (columns other member)

theorem wrapped_natCast (extent origin : Nat) : wrapped extent origin = origin % extent := by
  rw [wrapped, Int.fmod_eq_emod_of_nonneg _ (by omega)]
  omega

theorem clear_sameShape (screen : Screen) : screen.clear.SameShape screen :=
  ⟨rfl, rfl, by simp [clear, Function.comp_def]⟩

theorem map_overlayFrom {α β γ : Type} {view : α → γ} {combine : α → β → α}
    (keeps : ∀ value other, view (combine value other) = view value) (start : Nat)
    (values : List α) (others : List β) :
    (Sprite.overlayFrom combine start values others).map view = values.map view := by
  have overlaid (values : List α) : (Sprite.overlay combine values others).map view =
      values.map view := by
    fun_induction Sprite.overlay combine values others <;> simp_all
  rw [Sprite.overlayFrom, List.map_append, overlaid, ← List.map_append, List.take_append_drop]

theorem drawn_sameShape (screen : Screen) (x y : Int) (sprite : List UInt8) :
    (screen.drawn x y sprite).SameShape screen := by
  refine ⟨rfl, rfl, ?_⟩
  unfold drawn
  exact map_overlayFrom (fun row bits => Sprite.length_overlayFrom ..) ..

end Screen

namespace Instruction

def skips : Instruction → Bool
  | .skipIfByte .. | .skipUnlessByte .. | .skipIfSame .. | .skipUnlessSame .. => true
  | _ => false

def stores : Instruction → Bool
  | .load .. | .add .. | .operate .. => true
  | _ => false

end Instruction

namespace Machine

variable {machine after : Machine} {x y : Nibble}

/-- The value of a register that exists. -/
def value (machine : Machine) (x : Nibble) : UInt8 := machine.registers.getD x.val 0

theorem WellFormed.register_lt (formed : machine.WellFormed) (x : Nibble) :
    x.val < machine.registers.length := by
  rw [formed.registers]
  exact x.isLt

theorem WellFormed.register_eq (formed : machine.WellFormed) (x : Nibble) :
    machine.register x = .ok (machine.value x) := by
  have found := List.getElem?_eq_getElem (formed.register_lt x)
  simp only [register, value, List.getD_eq_getElem?_getD, found, Option.getD_some]

theorem WellFormed.setRegister_eq (formed : machine.WellFormed) (x : Nibble) (value : UInt8) :
    machine.setRegister x value =
      .ok { machine with registers := machine.registers.set x.val value } := by
  rw [setRegister, if_pos (formed.register_lt x)]

theorem setRegister_eq_ok {value : UInt8} (written : machine.setRegister x value = .ok after) :
    after = { machine with registers := machine.registers.set x.val value } := by
  unfold setRegister at written
  split at written
  · exact (Except.ok.inj written).symm
  · cases written

theorem operate_eq_ok {operation : Operation}
    (operated : machine.operate operation x y = .ok after) :
    ∃ registers, registers.length = machine.registers.length ∧
      after = { machine with registers } := by
  simp only [operate, bind_eq_ok_iff] at operated
  obtain ⟨left, -, right, -, stored, written, flagged⟩ := operated
  cases setRegister_eq_ok written
  split at flagged
  · cases setRegister_eq_ok flagged
    exact ⟨_, by simp, rfl⟩
  · cases flagged
    exact ⟨_, by simp, rfl⟩

theorem drawSprite_eq_ok {rows : Nat} (drawn : machine.drawSprite x y rows = .ok after) :
    ∃ left top sprite flag, machine.register x = .ok left ∧ machine.register y = .ok top ∧
      machine.memory.readBlock machine.index (machine.visibleRows rows top) = .ok sprite ∧
      flag = (if machine.screen.collides left.toNat top.toNat sprite then (1 : UInt8) else 0) ∧
      after = { machine with
        registers := machine.registers.set flagRegister.val flag
        screen := machine.screen.drawn left.toNat top.toNat sprite
        updated := true } := by
  simp only [drawSprite, bind_eq_ok_iff] at drawn
  obtain ⟨top, readTop, sprite, readSprite, left, readLeft, ⟨collision, screen⟩, laid, stored,
    flagged, result⟩ := drawn
  unfold Screen.draw at laid
  split at laid
  · cases laid
  cases laid
  cases setRegister_eq_ok flagged
  cases result
  exact ⟨left, top, sprite, _, readLeft, readTop, readSprite, rfl, rfl⟩

/-- The ways in which an instruction can change the machine. -/
inductive Effect (machine : Machine) : Instruction → Machine → Prop where
  | clear : Effect machine .clear { machine with screen := machine.screen.clear, updated := true }
  | ret {address : Int} {rest : List Int} (top : machine.stack = address :: rest) :
      Effect machine .ret ({ machine with stack := rest }.setPc address)
  | jump (target : Target) : Effect machine (.jump target) (machine.setPc target.val)
  | call (target : Target) :
      Effect machine (.call target) ((machine.push machine.pc).setPc target.val)
  | skip {instruction : Instruction} (skips : instruction.skips = true) {pc : Int}
      (moved : pc = machine.pc ∨ pc = Bits.lowWord (machine.pc + 2)) :
      Effect machine instruction { machine with pc }
  | store {instruction : Instruction} (stores : instruction.stores = true)
      {registers : List UInt8} (count : registers.length = machine.registers.length) :
      Effect machine instruction { machine with registers }
  | point (target : Target) : Effect machine (.point target) (machine.setIndex target.val)
  | draw (x y rows : Nibble) {registers : List UInt8} {screen : Screen}
      (count : registers.length = machine.registers.length)
      (shape : screen.SameShape machine.screen) :
      Effect machine (.draw x y rows) { machine with registers, screen, updated := true }

theorem skipWhen_effect {instruction : Instruction} (skips : instruction.skips = true)
    (condition : Bool) : Effect machine instruction (machine.skipWhen condition) := by
  cases condition with
  | false => exact .skip skips (.inl rfl)
  | true => exact .skip skips (.inr rfl)

theorem execute_effect {instruction : Instruction}
    (executed : machine.execute instruction = .ok after) : Effect machine instruction after := by
  cases instruction with
  | clear => cases executed; exact .clear
  | ret =>
      simp only [execute] at executed
      split at executed
      · cases executed
      · next top => cases executed; exact .ret top
  | jump target => cases executed; exact .jump target
  | call target => cases executed; exact .call target
  | skipIfByte x byte | skipUnlessByte x byte =>
      simp only [execute, bind_eq_ok_iff] at executed
      obtain ⟨left, -, result⟩ := executed
      cases result
      exact skipWhen_effect rfl _
  | skipIfSame x y | skipUnlessSame x y =>
      simp only [execute, bind_eq_ok_iff] at executed
      obtain ⟨left, -, right, -, result⟩ := executed
      cases result
      exact skipWhen_effect rfl _
  | load x byte =>
      cases setRegister_eq_ok executed
      exact .store rfl (by simp)
  | add x byte =>
      simp only [execute, bind_eq_ok_iff] at executed
      obtain ⟨left, -, written⟩ := executed
      cases setRegister_eq_ok written
      exact .store rfl (by simp)
  | operate operation x y =>
      obtain ⟨registers, count, rfl⟩ := operate_eq_ok executed
      exact .store rfl count
  | point target => cases executed; exact .point target
  | draw x y rows =>
      obtain ⟨left, top, sprite, flag, -, -, -, -, rfl⟩ := drawSprite_eq_ok executed
      exact .draw x y rows (by simp) (Screen.drawn_sameShape ..)

namespace Effect

variable {instruction : Instruction}

theorem memory (effect : Effect machine instruction after) : after.memory = machine.memory := by
  cases effect <;> rfl

theorem opcode (effect : Effect machine instruction after) : after.opcode = machine.opcode := by
  cases effect <;> rfl

theorem delay (effect : Effect machine instruction after) : after.delay = machine.delay := by
  cases effect <;> rfl

theorem sound (effect : Effect machine instruction after) : after.sound = machine.sound := by
  cases effect <;> rfl

theorem shape (effect : Effect machine instruction after) :
    after.screen.SameShape machine.screen := by
  cases effect with
  | clear => exact Screen.clear_sameShape _
  | draw x y rows count shape => exact shape
  | _ => exact ⟨rfl, rfl, rfl⟩

theorem index (effect : Effect machine instruction after) :
    after.index = machine.index ∨ ∃ target : Target, after.index = Bits.lowWord target.val := by
  cases effect with
  | point target => exact .inr ⟨target, rfl⟩
  | _ => exact .inl rfl

theorem registerCount (effect : Effect machine instruction after) :
    after.registers.length = machine.registers.length := by
  cases effect with
  | store stores count => exact count
  | draw x y rows count shape => exact count
  | _ => rfl

theorem stack (effect : Effect machine instruction after) :
    after.stack = machine.stack ∨
      (∃ target, instruction = .call target ∧ after.stack = machine.pc :: machine.stack) ∨
        instruction = .ret ∧ ∃ address, machine.stack = address :: after.stack := by
  cases effect with
  | ret top => exact .inr (.inr ⟨rfl, _, top⟩)
  | call target => exact .inr (.inl ⟨target, rfl, rfl⟩)
  | _ => exact .inl rfl

/-- The program counter is masked wherever it is written. -/
theorem pc (effect : Effect machine instruction after) :
    after.pc = machine.pc ∨ after.pc = Bits.lowWord (machine.pc + 2) ∨
      (∃ target : Target, after.pc = Bits.lowWord target.val) ∨
        ∃ address ∈ machine.stack, after.pc = Bits.lowWord address := by
  cases effect with
  | ret top => exact .inr (.inr (.inr ⟨_, by simp [top], rfl⟩))
  | jump target | call target => exact .inr (.inr (.inl ⟨target, rfl⟩))
  | skip skips moved => exact moved.imp_right .inl
  | _ => exact .inl rfl

theorem wellFormed (effect : Effect machine instruction after) (formed : machine.WellFormed) :
    after.WellFormed where
  pc := by
    rcases effect.pc with same | masked | ⟨target, masked⟩ | ⟨address, -, masked⟩
    · exact same ▸ formed.pc
    all_goals
      simp only [masked, Bits.lowWord]
      omega
  index := by
    rcases effect.index with same | ⟨target, masked⟩
    · exact same ▸ formed.index
    · simp only [masked, Bits.lowWord]
      omega
  delay := effect.delay ▸ formed.delay
  sound := effect.sound ▸ formed.sound
  registers := effect.registerCount.trans formed.registers
  memory := effect.memory ▸ formed.memory
  width := effect.shape.width.trans formed.width
  height := effect.shape.height.trans formed.height
  rows := effect.shape.length_rows.trans formed.rows
  columns := effect.shape.columns formed.columns

end Effect

theorem WellFormed.left_eq (formed : machine.WellFormed) (value : UInt8) :
    Screen.wrapped machine.screen.width value.toNat = value.toNat % 64 := by
  rw [formed.width]
  exact Screen.wrapped_natCast 64 value.toNat

theorem WellFormed.top_eq (formed : machine.WellFormed) (value : UInt8) :
    Screen.wrapped machine.screen.height value.toNat = value.toNat % 32 := by
  rw [formed.height]
  exact Screen.wrapped_natCast 32 value.toNat

theorem WellFormed.visibleRows_eq (formed : machine.WellFormed) (rows : Nat) (top : UInt8) :
    machine.visibleRows rows top = min rows (32 - top.toNat % 32) := by
  rw [visibleRows, formed.top_eq, formed.height]
  rfl

theorem WellFormed.operate_eq (formed : machine.WellFormed) (operation : Operation) (x y : Nibble) :
    machine.operate operation x y =
      let (result, flag) := operation.apply (machine.value x) (machine.value y)
      let stored := machine.registers.set x.val result
      .ok { machine with
        registers := match flag with
          | some value => stored.set flagRegister.val (if value then 1 else 0)
          | none => stored } := by
  have count (value : UInt8) : flagRegister.val < (machine.registers.set x.val value).length := by
    rw [List.length_set]
    exact formed.register_lt flagRegister
  simp only [operate, formed.register_eq, ok_bind, formed.setRegister_eq]
  cases flagged : (operation.apply (machine.value x) (machine.value y)).2 with
  | some value => simp only [setFlag, setRegister, if_pos (count _)]
  | none => simp only [pure_eq_ok]

/-- The sprite is read before anything is written, so the read decides. -/
theorem WellFormed.drawSprite_eq (formed : machine.WellFormed) (x y : Nibble) (rows : Nat) :
    machine.drawSprite x y rows = do
      let sprite ←
        machine.memory.readBlock machine.index (machine.visibleRows rows (machine.value y))
      let left : Int := (machine.value x).toNat
      let top : Int := (machine.value y).toNat
      return { machine with
        registers := machine.registers.set flagRegister.val
          (if machine.screen.collides left top sprite then 1 else 0)
        screen := machine.screen.drawn left top sprite
        updated := true } := by
  have extent : ¬ (machine.screen.width = 0 ∨ machine.screen.height = 0) := by
    rw [formed.width, formed.height]
    decide
  simp only [drawSprite, formed.register_eq, ok_bind, Screen.draw, if_neg extent, setFlag,
    formed.setRegister_eq, pure_eq_ok]

theorem WellFormed.covers_index_eq (formed : machine.WellFormed) (length : Nat) :
    machine.memory.covers machine.index length =
      if machine.index + length ≤ 0x1000 then .ok ()
      else .error (.outsideMemory machine.index length 0x1000) := by
  have size : machine.memory.size = 0x1000 := formed.memory
  simp only [Memory.covers, size, formed.index.1, true_and]
  rfl

/-- On sixteen registers, all but two instructions always get to their end. -/
theorem WellFormed.execute_ok (formed : machine.WellFormed) {instruction : Instruction}
    (returns : instruction = .ret → machine.stack ≠ [])
    (draws : ∀ x y rows, instruction = .draw x y rows →
      machine.index + machine.visibleRows rows.val (machine.value y) ≤ 0x1000) :
    ∃ after, machine.execute instruction = .ok after := by
  cases instruction with
  | clear => exact ⟨_, rfl⟩
  | ret =>
      simp only [execute]
      split
      · next empty => exact absurd empty (returns rfl)
      · exact ⟨_, rfl⟩
  | jump target => exact ⟨_, rfl⟩
  | call target => exact ⟨_, rfl⟩
  | skipIfByte x byte | skipUnlessByte x byte =>
      simp only [execute, formed.register_eq, ok_bind]
      exact ⟨_, rfl⟩
  | skipIfSame x y | skipUnlessSame x y =>
      simp only [execute, formed.register_eq, ok_bind]
      exact ⟨_, rfl⟩
  | load x byte => exact ⟨_, formed.setRegister_eq x byte⟩
  | add x byte =>
      simp only [execute, formed.register_eq, ok_bind]
      exact ⟨_, formed.setRegister_eq x _⟩
  | operate operation x y => exact ⟨_, formed.operate_eq operation x y⟩
  | point target => exact ⟨_, rfl⟩
  | draw x y rows =>
      have room := draws x y rows rfl
      simp only [execute, formed.drawSprite_eq, Memory.readBlock, formed.covers_index_eq,
        if_pos room, ok_bind, pure_eq_ok]
      exact ⟨_, rfl⟩

theorem WellFormed.execute_draw_error (formed : machine.WellFormed) (x y rows : Nibble)
    (beyond : 0x1000 < machine.index + machine.visibleRows rows.val (machine.value y)) :
    machine.execute (.draw x y rows) =
      .error (.outsideMemory machine.index (machine.visibleRows rows.val (machine.value y))
        0x1000) := by
  simp only [execute, formed.drawSprite_eq, Memory.readBlock, formed.covers_index_eq,
    if_neg (Int.not_le.2 beyond), error_bind]

end Machine

end ChipEight
