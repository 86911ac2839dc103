import ChipEight.Proofs.Footprint

namespace ChipEight

/-! Sums, differences and shifts of bytes, with their flag.

The flag is the bit by which a result misses the number it stands for, or the bit that there was
no borrow.  It makes the two of them the only solution of an equation over the integers.
-/

namespace Operation

variable {operation : Operation} {left right result : UInt8} {flag : Bool}

/-- What a result and its flag have to do with the operands; an operation without a flag asks
nothing of them. -/
def Equation (operation : Operation) (left right result : UInt8) (flag : Bool) : Prop :=
  let a : Int := left.toNat
  let b : Int := right.toNat
  let value : Int := result.toNat
  let f : Int := flag.toNat
  match operation with
  | .add => value + 256 * f = a + b
  | .sub => value = a - b + 256 * (1 - f)
  | .subFrom => value = b - a + 256 * (1 - f)
  | .shiftRight => 2 * value + f = a
  | .shiftLeft => value + 256 * f = 2 * a
  | .copy | .or | .and | .xor => True

theorem apply_of_setsFlag (sets : operation.setsFlag = true) (left right : UInt8) :
    ∃ result flag, operation.apply left right = (result, some flag) := by
  obtain ⟨flag, set⟩ := Option.isSome_iff_exists.1 ((operation.isSome_apply left right).trans sets)
  exact ⟨_, flag, Prod.ext rfl set⟩

theorem equation_iff (applied : operation.apply left right = (result, some flag))
    (other : UInt8) (bit : Bool) :
    operation.Equation left right other bit ↔ other = result ∧ bit = flag := by
  have lowLeft := left.toNat_lt
  have lowRight := right.toNat_lt
  have lowOther := other.toNat_lt
  cases operation with
  | copy | or | and | xor => cases applied
  | _ =>
      simp only [apply, Prod.mk.injEq, Option.some.injEq] at applied
      obtain ⟨rfl, rfl⟩ := applied
      simp only [Equation, ← UInt8.toNat_inj, UInt8.le_iff_toNat_le, UInt8.toNat_add,
        UInt8.toNat_sub, UInt8.toNat_div, UInt8.toNat_mod, UInt8.reduceToNat]
      cases bit <;>
        simp only [Bool.toNat_false, Bool.toNat_true, Bool.false_eq, Bool.true_eq,
          decide_eq_false_iff_not, decide_eq_true_iff] <;>
        omega

/-- A shift looks at its first operand only. -/
theorem apply_shift (shifts : operation = .shiftRight ∨ operation = .shiftLeft)
    (left right other : UInt8) : operation.apply left other = operation.apply left right := by
  rcases shifts with rfl | rfl <;> rfl

end Operation

theorem Instruction.ofWord?_operate {word : Word} {operation : Operation} {x y : Nibble}
    (made : word.toNat = 0x8000 + x * 0x100 + y * 0x10 + operation.nibble) :
    ofWord? word = some (.operate operation x y) := by
  have small : operation.nibble < 16 := by cases operation <;> decide
  have known : Operation.ofNibble? ⟨operation.nibble, small⟩ = some operation := by
    cases operation <;> rfl
  obtain ⟨family, rfl, rfl⟩ := @family_x_y word 8 x y ⟨operation.nibble, small⟩ made.symm
  have nibble : word.n = ⟨operation.nibble, small⟩ := by
    simp only [Fin.ext_iff, Word.n]
    omega
  simp only [ofWord?, family, nibble, known, Option.map_some]

namespace Machine

variable {machine : Machine} {operation : Operation} {x y : Nibble} {result : UInt8} {flag : Bool}

/-- The machine after an operation on registers; the flag is written last. -/
def withResult (machine : Machine) (x : Nibble) (result : UInt8) (flag : Bool) : Machine :=
  let stored := machine.registers.set x.val result
  { machine with registers := stored.set flagRegister.val (if flag then 1 else 0) }

theorem WellFormed.step_operate (formed : machine.WellFormed) (within : machine.pc ≤ 0xFFE)
    (decoded : Instruction.ofWord? machine.nextWord = some (.operate operation x y))
    (applied : operation.apply (machine.value x) (machine.value y) = (result, some flag)) :
    machine.step =
      .ok () ((machine.fetched machine.nextWord).withResult x result flag).tick := by
  have peeked : machine.peek = .ok machine.nextWord := by
    rw [formed.peek_eq, if_neg (Int.not_lt.2 within)]
  have vetted : machine.vet machine.nextWord = .ok () := vet_word decoded
  refine step_of_execute peeked vetted decoded ?_
  have operated := (formed.fetched machine.nextWord).operate_eq operation x y
  have same : operation.apply ((machine.fetched machine.nextWord).value x)
      ((machine.fetched machine.nextWord).value y) = (result, some flag) := applied
  rw [same] at operated
  exact operated

theorem WellFormed.withRegister (formed : machine.WellFormed) (x : Nibble) (byte : UInt8) :
    ({ machine with registers := machine.registers.set x.val byte } : Machine).WellFormed :=
  { formed with registers := List.length_set.trans formed.registers }

theorem WellFormed.value_flag (formed : machine.WellFormed) (x : Nibble) (result : UInt8)
    (flag : Bool) :
    (machine.withResult x result flag).value flagRegister = if flag then 1 else 0 :=
  (formed.withRegister x result).value_set flagRegister _

theorem WellFormed.value_result (formed : machine.WellFormed) (apart : x ≠ flagRegister)
    (result : UInt8) (flag : Bool) : (machine.withResult x result flag).value x = result :=
  (value_set_ne (Ne.symm apart) _).trans (formed.value_set x result)

theorem set_set_set {α : Type} (values : List α) (first second : Nat) (one other : α) :
    ((values.set first one).set second other).set first one =
      (values.set second other).set first one := by
  by_cases same : second = first
  · subst same
    simp only [List.set_set]
  · rw [List.set_comm _ _ (Ne.symm same), List.set_set]

/-- What was in a register that is not the target comes out as it went in, unless the flag is put
there. -/
theorem withResult_set (machine : Machine) (result : UInt8) (flag : Bool) (apart : y ≠ x)
    (byte : UInt8) :
    ({ machine with registers := machine.registers.set y.val byte } : Machine).withResult x result
        flag =
      { machine.withResult x result flag with
        registers := ((machine.withResult x result flag).registers.set y.val byte).set
          flagRegister.val (if flag then 1 else 0) } := by
  have places : y.val ≠ x.val := fun same => apart (Fin.ext same)
  simp only [withResult, set_set_set]
  rw [List.set_comm _ _ places]

/-- An operation that sets the flag leaves the one result and the one flag that solve its equation.

The flag is stored last, so that it is what remains where the result was to go in the same register.
A shift does not look at its second register. -/
theorem operation_solves_equation (formed : machine.WellFormed) (within : machine.pc ≤ 0xFFE)
    (sets : operation.setsFlag = true)
    (made : machine.nextWord.toNat = 0x8000 + x * 0x100 + y * 0x10 + operation.nibble) :
    ∃ after result flag, machine.step = .ok () after ∧
      (∀ other bit, operation.Equation (machine.value x) (machine.value y) other bit ↔
        other = result ∧ bit = flag) ∧
      (after.value flagRegister).toNat = flag.toNat ∧
      (x ≠ flagRegister → after.value x = result) ∧
      (operation = .shiftRight ∨ operation = .shiftLeft → y ≠ x → ∀ byte,
        ({ machine with registers := machine.registers.set y.val byte } : Machine).step =
          .ok () { after with
            registers := (after.registers.set y.val byte).set flagRegister.val
              (after.value flagRegister) }) := by
  have decoded := Instruction.ofWord?_operate made
  obtain ⟨result, flag, applied⟩ :=
    operation.apply_of_setsFlag sets (machine.value x) (machine.value y)
  have fetched := formed.fetched machine.nextWord
  have bit := fetched.value_flag x result flag
  refine ⟨_, result, flag, formed.step_operate within decoded applied,
    Operation.equation_iff applied, ?_, ?_, ?_⟩
  · have set : (if flag then (1 : UInt8) else 0).toNat = flag.toNat := by cases flag <;> rfl
    exact (congrArg UInt8.toNat bit).trans set
  · intro apart
    exact fetched.value_result apart result flag
  · intro shifts apart byte
    let other : Machine := { machine with registers := machine.registers.set y.val byte }
    have same : operation.apply (other.value x) (other.value y) = (result, some flag) := by
      rw [value_set_ne apart, operation.apply_shift shifts (machine.value x) (machine.value y),
        applied]
    have stepped := (formed.withRegister y byte).step_operate within decoded same
    have kept := congrArg tick
      (withResult_set (machine.fetched machine.nextWord) result flag apart byte)
    rw [← bit] at kept
    exact stepped.trans (congrArg (EStateM.Result.ok ()) kept)

/-- The flag takes the place of an operand that the shift has not looked at. -/
theorem shift_overwrites_operand :
    ∃ machine after : Machine, machine.WellFormed ∧ machine.pc ≤ 0xFFE ∧
      Operation.setsFlag .shiftRight = true ∧ machine.nextWord.toNat = 0x8EF6 ∧
      machine.value 14 = 0x81 ∧ machine.value 15 = 5 ∧ machine.step = .ok () after ∧
      after.value 14 = 0x40 ∧ after.value 15 = 1 ∧
      ∀ byte, ∃ registers,
        ({ machine with registers := machine.registers.set 15 byte } : Machine).step =
          .ok () { after with registers } ∧ registers[15]? = some 1 := by
  obtain ⟨memory, -, size, bytes⟩ := loaded_ok none [0x8E, 0xF6] (by simp) (by decide)
  let machine : Machine :=
    { powered memory with registers := ((List.replicate 16 0).set 14 0x81).set 15 5 }
  have formed : machine.WellFormed := { powered_wellFormed size with registers := rfl }
  have word : machine.nextWord = .ofBytes 0x8E 0xF6 :=
    nextWord_of_bytes (rfl : machine.pc = (0x200 : Nat)) (bytes _) (bytes _)
  have made : machine.nextWord.toNat =
      0x8000 + (14 : Nibble) * 0x100 + (15 : Nibble) * 0x10 + Operation.shiftRight.nibble := by
    rw [word]
    rfl
  have within : machine.pc ≤ 0xFFE := (by decide : (0x200 : Int) ≤ 0xFFE)
  obtain ⟨after, result, flag, stepped, solves, bit, stored, free⟩ :=
    operation_solves_equation formed within rfl made
  obtain ⟨rfl, rfl⟩ := (solves 0x40 true).1 rfl
  have one : after.value 15 = 1 := UInt8.toNat_inj.1 bit
  refine ⟨machine, after, formed, within, rfl, made, rfl, rfl, stepped, stored (by decide), one, ?_⟩
  intro byte
  have room : 15 < (after.registers.set 15 byte).length := by
    rw [List.length_set, (formed.step stepped).registers]
    decide
  refine ⟨_, free (.inl rfl) (by decide) byte, ?_⟩
  exact (List.getElem?_set_self room).trans (congrArg some one)

end Machine

end ChipEight
