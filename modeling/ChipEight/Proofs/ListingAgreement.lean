import ChipEight.Proofs.InstructionSet
import ChipEight.Proofs.Loading
import ChipEight.Proofs.Numbers
import ChipEight.Proofs.Wording

namespace ChipEight

/-! A listing shows as instructions just the words that the machine knows.

Check, execution and wording of words are tables of their own, and the last two fail where they have
no entry.  A listing, which is made item by item, could fail on its way through an image.  It does
not, whatever the image is: `disassemble` gives what `list` gives, and so does `walk`, which asks
for each item by its offset.
-/

theorem Memory.readBlock_pair {memory : Memory} {address : Int} (low : 0 ≤ address)
    (within : address + 2 ≤ memory.size) :
    memory.readBlock address 2 =
      .ok [memory.byteAt address.toNat, memory.byteAt (address.toNat + 1)] :=
  readBlock_within low within

namespace Listing

variable {word : Word}

theorem wordingOf_supported {word : Word} (supported : word.supported) (address : Int) :
    ∃ instruction, Instruction.ofWord? word = some instruction ∧
      wordingOf word.toNat address = .ok (instruction.wording address) := by
  obtain ⟨instruction, decoded⟩ := Instruction.supported_iff_exists.1 supported
  exact ⟨instruction, decoded, Instruction.wordingOf_word decoded address⟩

theorem ofPair_mnemonic_iff (address : Int) (high low : UInt8) :
    (Item.ofPair address high low).wording.mnemonic ≠ ".WORD" ↔
      (Word.ofBytes high low).supported := by
  rw [Instruction.supported_iff_exists]
  cases decoded : Instruction.ofWord? (Word.ofBytes high low) with
  | none => simp [Item.ofPair, decoded]
  | some instruction => simp [Item.ofPair, decoded, instruction.mnemonic_ne_word]

theorem itemAt_pair (before after : List UInt8) (address : Int) (high low : UInt8) :
    itemAt (before ++ ([high, low] ++ after)) address before.length =
      .ok (.ofPair address high low) := by
  have window : Slice.window (before ++ ([high, low] ++ after)) before.length
      (before.length + 2) = [high, low] := Slice.window_append before [high, low] after
  have length : (before ++ ([high, low] ++ after)).length = before.length + 2 + after.length := by
    simp only [List.length_append, List.length_cons, List.length_nil]
    omega
  rw [itemAt, if_neg (by omega), if_neg (by omega), window]
  exact pairItem_eq address high low

theorem itemAt_last (before : List UInt8) (address : Int) (byte : UInt8) :
    itemAt (before ++ [byte]) address before.length = .ok (.ofByte address byte) := by
  have length : (before ++ [byte]).length = before.length + 1 := List.length_append
  have window : Slice.window (before ++ [byte]) before.length (before ++ [byte]).length =
      [byte] := by
    rw [length]
    exact Slice.window_append before [byte] []
  rw [itemAt, if_neg (by omega), if_pos (by omega), window]

theorem itemAt_eq_ok {image : List UInt8} {address offset : Int} {item : Item}
    (found : itemAt image address offset = .ok item) :
    (∃ byte, item = .ofByte address byte) ∨ ∃ high low, item = .ofPair address high low := by
  unfold itemAt at found
  split at found
  · cases found
  split at found
  · split at found
    · next byte rest _ =>
      cases found
      exact .inl ⟨byte, rfl⟩
    · cases found
  · split at found
    · next high low _ =>
      rw [pairItem_eq] at found
      cases found
      exact .inr ⟨high, low, rfl⟩
    · cases found

theorem size_pos_of_itemAt {image : List UInt8} {address offset : Int} {item : Item}
    (found : itemAt image address offset = .ok item) : 0 < item.size := by
  rcases itemAt_eq_ok found with ⟨byte, rfl⟩ | ⟨high, low, rfl⟩
  · exact Nat.one_pos
  · exact Nat.two_pos

/-- A walk as it goes: an address and an offset that are moved apart from each other, and the items
listed so far. -/
def walk (image : List UInt8) (count maxBytes : Option Int) (address : Int) (offset : Nat)
    (listed : List Item) : Except Fault (List Item) :=
  if offset < image.length ∧ ¬ spent count listed.length ∧ ¬ spent maxBytes offset then
    match _ : itemAt image address offset with
    | .error fault => .error fault
    | .ok item =>
        walk image count maxBytes (address + item.size) (offset + item.size) (listed ++ [item])
  else .ok listed
termination_by image.length - offset
decreasing_by
  have := size_pos_of_itemAt ‹itemAt image address offset = .ok item›
  omega

/-- The items that the bounds leave after so many of them. -/
def bounded (start : Int) (count maxBytes : Option Int) (taken : Nat) (all : List Item) :
    List Item :=
  let few := match count with
    | none => all
    | some limit => all.take (limit - taken).toNat
  match maxBytes with
  | none => few
  | some limit => few.takeWhile fun item => item.address - start < limit

theorem take_cons_limit {α : Type} (limit : Int) (taken : Nat) (value : α) (rest : List α) :
    (value :: rest).take (limit - taken).toNat =
      if limit ≤ taken then [] else value :: rest.take (limit - (taken + 1 : Nat)).toNat := by
  split
  · next full =>
    have none : (limit - taken).toNat = 0 := by omega
    rw [none, List.take_zero]
  · next more =>
    have one : (limit - taken).toNat = (limit - (taken + 1 : Nat)).toNat + 1 := by omega
    rw [one, List.take_succ_cons]

theorem bounded_nil (start : Int) (count maxBytes : Option Int) (taken : Nat) :
    bounded start count maxBytes taken [] = [] := by
  cases count <;> cases maxBytes <;> simp [bounded]

theorem bounded_cons (start : Int) (count maxBytes : Option Int) (taken : Nat) (item : Item)
    (rest : List Item) :
    bounded start count maxBytes taken (item :: rest) =
      if spent count taken ∨ spent maxBytes (item.address - start) then []
      else item :: bounded start count maxBytes (taken + 1) rest := by
  cases count with
  | none =>
      cases maxBytes with
      | none => simp [bounded, spent]
      | some last =>
          by_cases full : last ≤ item.address - start
          · simp [bounded, spent, full]
          · simp [bounded, spent, full, Int.not_le.1 full]
  | some limit =>
      simp only [bounded, take_cons_limit]
      by_cases full : limit ≤ taken
      · cases maxBytes <;> simp [spent, full]
      · cases maxBytes with
        | none => simp [spent, full]
        | some last =>
            by_cases far : last ≤ item.address - start
            · simp [spent, full, far]
            · simp [spent, full, far, Int.not_le.1 far]

theorem bounded_zero (image : List UInt8) (start : Int) (count maxBytes : Option Int) :
    bounded start count maxBytes 0 (items start image) = list image start count maxBytes := by
  cases count <;> cases maxBytes <;> simp [bounded, list]

/-- What is left of an image adds the items that the bounds leave of it.  The induction keeps
address and offset as far apart as they are at the start. -/
theorem itemsFrom_eq {start address : Int} {offset : Nat} (apart : address = start + offset)
    (count maxBytes : Option Int) (listed : Array Item) (rest : List UInt8) :
    itemsFrom count maxBytes address offset listed rest =
      .ok (listed.toList ++ bounded start count maxBytes listed.size (items address rest)) := by
  have position : address - start = offset := by omega
  fun_induction items address rest generalizing offset listed with
  | case1 address high low rest induction =>
      have here : (Item.ofPair address high low).address - start = offset := position
      rw [itemsFrom, bounded_cons, here]
      by_cases done : spent count listed.size ∨ spent maxBytes offset
      · rw [if_pos (Bool.or_eq_true_iff.2 done), if_pos done, List.append_nil]
      · have next := @induction (offset + 2) (by omega) (listed.push (.ofPair address high low))
          (by omega)
        rw [if_neg (mt Bool.or_eq_true_iff.1 done), if_neg done]
        simp only [pairItem_eq, next, Array.toList_push, Array.size_push, List.append_assoc,
          List.singleton_append]
  | case2 address byte =>
      have here : (Item.ofByte address byte).address - start = offset := position
      rw [itemsFrom, bounded_cons, here, bounded_nil]
      by_cases done : spent count listed.size ∨ spent maxBytes offset
      · rw [if_pos (Bool.or_eq_true_iff.2 done), if_pos done, List.append_nil]
      · rw [if_neg (mt Bool.or_eq_true_iff.1 done), if_neg done, Array.toList_push]
  | case3 address => rw [itemsFrom, bounded_nil, List.append_nil]

theorem disassemble_eq_list (image : List UInt8) (start : Int) (count maxBytes : Option Int) :
    disassemble image start count maxBytes = .ok (list image start count maxBytes) := by
  have whole := @itemsFrom_eq start start 0 (Int.add_zero start).symm count maxBytes #[] image
  rw [disassemble, whole, ← bounded_zero]
  rfl

theorem walk_cons {image : List UInt8} {address : Int} {offset : Nat} {item : Item}
    (count maxBytes : Option Int) (listed : List Item) (inside : offset < image.length)
    (found : itemAt image address offset = .ok item) :
    walk image count maxBytes address offset listed =
      if spent count listed.length ∨ spent maxBytes offset then .ok listed
      else walk image count maxBytes (address + item.size) (offset + item.size)
        (listed ++ [item]) := by
  rw [walk]
  by_cases done : spent count listed.length ∨ spent maxBytes offset
  · rw [if_pos done, if_neg fun going => done.elim going.2.1 going.2.2]
  · obtain ⟨more, near⟩ := not_or.1 done
    rw [if_neg done, if_pos ⟨inside, more, near⟩]
    split
    · next fault failed => cases found.symm.trans failed
    · next other same =>
      cases found.symm.trans same
      rfl

theorem walk_end {image : List UInt8} {address : Int} {offset : Nat} (count maxBytes : Option Int)
    (listed : List Item) (past : image.length ≤ offset) :
    walk image count maxBytes address offset listed = .ok listed := by
  rw [walk, if_neg fun going => absurd going.1 (Nat.not_lt.2 past)]

theorem walk_eq {start address : Int} (count maxBytes : Option Int) (before rest : List UInt8)
    (apart : address = start + before.length) (listed : List Item) :
    walk (before ++ rest) count maxBytes address before.length listed =
      .ok (listed ++ bounded start count maxBytes listed.length (items address rest)) := by
  fun_induction items address rest generalizing before listed with
  | case1 address high low rest induction =>
      have item : itemAt (before ++ ([high, low] ++ rest)) address before.length =
          .ok (.ofPair address high low) := itemAt_pair ..
      have position : (Item.ofPair address high low).address - start = before.length := by
        change address - start = _
        omega
      have next : before.length + (Item.ofPair address high low).size =
          (before ++ [high, low]).length := List.length_append.symm
      have others := induction (before ++ [high, low]) (by
        simp only [List.length_append, List.length_cons, List.length_nil]
        omega) (listed ++ [.ofPair address high low])
      rw [List.append_assoc, @List.length_append _ listed] at others
      change walk (before ++ ([high, low] ++ rest)) _ _ _ _ _ = _
      rw [walk_cons _ _ _ (by simp) item, next, bounded_cons, position]
      split
      · rw [List.append_nil]
      · exact others.trans (congrArg Except.ok (List.append_assoc ..))
  | case2 address byte =>
      have item : itemAt (before ++ [byte]) address before.length = .ok (.ofByte address byte) :=
        itemAt_last ..
      have position : (Item.ofByte address byte).address - start = before.length := by
        change address - start = _
        omega
      have past : (before ++ [byte]).length ≤ before.length + (Item.ofByte address byte).size :=
        Nat.le_of_eq List.length_append
      rw [walk_cons _ _ _ (by simp) item, walk_end _ _ _ past, bounded_cons, position, bounded_nil]
      split
      · rw [List.append_nil]
      · rfl
  | case3 address =>
      rw [walk_end _ _ _ (by simp), bounded_nil, List.append_nil]

theorem walk_eq_list (image : List UInt8) (start : Int) (count maxBytes : Option Int) :
    walk image count maxBytes start 0 [] = .ok (list image start count maxBytes) := by
  have whole := walk_eq count maxBytes [] image (Int.add_zero start).symm []
  rw [← bounded_zero]
  exact whole

/-- The tables of words agree throughout.  What is listed as an instruction is what a step knows,
such a word has a wording and never comes to the end of a table while it is executed, and all other
words come to it; so a listing of any image, with any bounds, is completed. -/
theorem listing_agrees_with_step :
    (∀ word : Word, word.supported ↔ word.Listed) ∧
    (∀ machine : Machine, machine.memory.size = 0x1000 → 0 ≤ machine.pc → machine.pc ≤ 0xFFE →
      ∃ bytes, machine.memory.readBlock machine.pc 2 = .ok bytes ∧
        ∀ before after address, ∃ item,
          itemAt (before ++ (bytes ++ after)) address before.length = .ok item ∧
            (item.wording.mnemonic ≠ ".WORD" ↔
              ∀ fault left, machine.step = .error fault left → fault.kind ≠ .unknownOpcode)) ∧
    (∀ word : Word, word.supported →
      (∀ address, ∃ wording, wordingOf word.toNat address = .ok wording ∧
        wording.mnemonic ≠ ".WORD") ∧
      ∀ (machine : Machine) (fault : Fault),
        (machine.perform word.toNat = .error fault → fault.kind ≠ .unknownOpcode) ∧
        (word.family.val = 0x8 →
          machine.performOperation word.n word.x word.y word.toNat = .error fault →
            fault.kind ≠ .unknownOpcode)) ∧
    (∀ word : Word, ¬ word.supported →
      (word.family.val ≠ 0x0 → ∀ address, ∃ fault, wordingOf word.toNat address = .error fault ∧
        (fault.kind = .key ∨ fault.kind = .value)) ∧
      ∀ machine : Machine, machine.registers.length = Machine.registerCount →
        machine.perform word.toNat = .error (.unknownOpcode word.toNat (machine.pc - 2))) ∧
    ∀ image start count maxBytes,
      disassemble image start count maxBytes = .ok (list image start count maxBytes) ∧
        walk image count maxBytes start 0 [] = .ok (list image start count maxBytes) := by
  refine ⟨Word.supported_iff, ?_, ?_, ?_, ?_⟩
  · intro machine size low high
    have within : machine.pc + 2 ≤ machine.memory.size := by omega
    refine ⟨_, Memory.readBlock_pair low within, fun before after address => ?_⟩
    refine ⟨_, itemAt_pair before after address _ _, ?_⟩
    rw [ofPair_mnemonic_iff, Machine.step_knows_iff low within]
    rfl
  · intro word supported
    refine ⟨fun address => ?_, fun machine fault => ⟨fun failed => ?_, fun family failed => ?_⟩⟩
    · obtain ⟨instruction, -, worded⟩ := wordingOf_supported supported address
      exact ⟨_, worded, instruction.mnemonic_ne_word address⟩
    · exact Machine.perform_supported supported failed
    · exact Machine.performOperation_supported supported family failed
  · intro word unsupported
    refine ⟨fun family address => wordingOf_unsupported unsupported family address, ?_⟩
    intro machine complete
    exact Machine.perform_unsupported complete unsupported
  · intro image start count maxBytes
    exact ⟨disassemble_eq_list .., walk_eq_list ..⟩

/-- A return with nothing to return to fails in a step and is an instruction all the same. -/
theorem listing_agrees_at_return :
    ∃ memory, Machine.loaded none [0x00, 0xEE] = .ok (Machine.powered memory) ∧
      memory.size = 0x1000 ∧ (Word.ofBytes 0x00 0xEE).supported ∧
      (Machine.powered memory).step = .error (.emptyStack 0x200) (Machine.powered memory) ∧
      (∃ wording, wordingOf 0x00EE 0x200 = .ok wording ∧ wording.mnemonic ≠ ".WORD") ∧
      ∃ bytes, memory.readBlock 0x200 2 = .ok bytes ∧ ∃ item,
        itemAt ([] ++ (bytes ++ [])) 0x200 0 = .ok item ∧ (item.wording.mnemonic ≠ ".WORD" ↔
          ∀ fault left, (Machine.powered memory).step = .error fault left →
            fault.kind ≠ .unknownOpcode) := by
  obtain ⟨memory, run, size, bytes⟩ := Machine.loaded_ok none [0x00, 0xEE] (by simp) (by decide)
  have supported : (Word.ofBytes 0x00 0xEE).supported := by rfl
  have word : (Machine.powered memory).nextWord = Word.ofBytes 0x00 0xEE := by
    change Word.ofBytes (memory.byteAt 0x200) (memory.byteAt 0x201) = _
    rw [bytes, bytes]
    rfl
  have refused : (Machine.powered memory).refusal? = some (.emptyStack 0x200) := by
    simp only [Machine.refusal?, Machine.obstacle?, word]
    rfl
  obtain ⟨-, steps, words, -, -⟩ := listing_agrees_with_step
  obtain ⟨pair, read, items⟩ := steps (Machine.powered memory) size
    (show (0 : Int) ≤ 0x200 by decide) (show (0x200 : Int) ≤ 0xFFE by decide)
  exact ⟨memory, run, size, supported, (Machine.powered_wellFormed size).step_refused refused,
    (words _ supported).1 0x200, pair, read, items [] [] 0x200⟩

end Listing

end ChipEight
