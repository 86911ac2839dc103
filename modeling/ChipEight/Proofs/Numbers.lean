import ChipEight.Machine.Snapshot
import ChipEight.Proofs.Result

namespace ChipEight

/-! Numbers in a row, as a snapshot has them, read as bytes and as words.

A reader is given a position in a longer row.  Each is described on a row that is
cut there, and so gives the same wherever the cut is.
-/

def numbers (bytes : List UInt8) : List Int := bytes.map fun byte => (byte.toNat : Int)

@[simp] theorem length_numbers (bytes : List UInt8) : (numbers bytes).length = bytes.length := by
  simp [numbers]

@[simp] theorem numbers_append (left right : List UInt8) :
    numbers (left ++ right) = numbers left ++ numbers right := by
  simp [numbers]

theorem byte_of_mem_numbers {bytes : List UInt8} {value : Int} (member : value ∈ numbers bytes) :
    0 ≤ value ∧ value < 256 := by
  obtain ⟨byte, -, rfl⟩ := List.mem_map.1 member
  have := byte.toNat_lt
  omega

theorem Bits.lowByte_toNat (byte : UInt8) : Bits.lowByte byte.toNat = byte := by
  have small := byte.toNat_lt
  have whole : ((byte.toNat : Int) % 256).toNat = byte.toNat := by omega
  rw [lowByte, whole, UInt8.ofNat_toNat]

theorem bytesOf_numbers (bytes : List UInt8) : bytesOf (numbers bytes) = .ok bytes := by
  have range : (numbers bytes).all (fun value => 0 ≤ value && value < 256) = true := by
    rw [List.all_eq_true]
    intro value member
    simpa using byte_of_mem_numbers member
  rw [bytesOf, if_pos range]
  simp [numbers, Function.comp_def, Bits.lowByte_toNat]

namespace Slice

variable {α : Type} {before after : List α}

theorem element_append (place : Nat) {value : α} (found : after[place]? = some value) :
    element (before ++ after) (before.length + place) = .ok value := by
  rw [← Int.natCast_add, element_natCast_iff, List.getElem?_append_right (Nat.le_add_right ..),
    Nat.add_sub_cancel_left, found]

theorem element_here (value : α) :
    element (before ++ value :: after) before.length = .ok value :=
  element_append 0 rfl

end Slice

namespace Bits

/-- High and low byte of a word do not overlap. -/
theorem union_bytes (high : Nat) {low : Nat} (small : low < 256) :
    union ((high : Int) * 0x100) low = (high * 256 + low : Nat) := by
  have apart := Nat.two_pow_add_eq_or_of_lt (i := 8) small high
  change Int.ofNat (high * 256 ||| low) = _
  rw [Nat.mul_comm, ← apart]
  simp

end Bits

namespace Machine

variable {before after : List Int}

/-- Two numbers as a word, the high one first. -/
def paired (high low : Int) : Int := Bits.union (high * 0x100) low

/-- Numbers taken two at a time. -/
def pairs : List Int → List Int
  | high :: low :: rest => paired high low :: pairs rest
  | _ => []

theorem pairAt_append (place : Nat) {high low : Int} (first : after[place]? = some high)
    (second : after[place + 1]? = some low) :
    pairAt (before ++ after) (before.length + place) = .ok (paired high low) := by
  have next : (before.length : Int) + place + 1 = before.length + (place + 1 : Nat) := by omega
  simp only [pairAt, Slice.element_append _ first, next, Slice.element_append _ second, ok_bind,
    pure_eq_ok, paired]

theorem pairAt_here (high low : Int) :
    pairAt (before ++ high :: low :: after) before.length = .ok (paired high low) := by
  have pair : pairAt (before ++ high :: low :: after) (before.length + (0 : Nat)) = _ :=
    pairAt_append 0 rfl rfl
  exact (Int.add_zero (before.length : Int)) ▸ pair

theorem exists_pair {α : Type} {count : Nat} {values : List α}
    (length : values.length = 2 * (count + 1)) :
    ∃ high low rest, values = high :: low :: rest ∧ rest.length = 2 * count := by
  match values with
  | [] | [_] =>
      simp only [List.length_cons, List.length_nil] at length
      omega
  | high :: low :: rest =>
      refine ⟨high, low, rest, rfl, ?_⟩
      simp only [List.length_cons] at length
      omega

theorem pairsAt_append {count : Nat} {values : List Int} (length : values.length = 2 * count) :
    pairsAt (before ++ (values ++ after)) before.length count = .ok (pairs values) := by
  induction count generalizing before values with
  | zero =>
      obtain rfl : values = [] := List.eq_nil_of_length_eq_zero (by omega)
      rfl
  | succ count induction =>
      obtain ⟨high, low, rest, rfl, fewer⟩ := exists_pair length
      have tail : pairsAt ((before ++ [high, low]) ++ (rest ++ after))
          (before ++ [high, low]).length count = .ok (pairs rest) := induction fewer
      rw [List.append_assoc, List.length_append] at tail
      have others : pairsAt (before ++ high :: low :: (rest ++ after)) (before.length + 2) count =
          .ok (pairs rest) := tail
      simp only [List.cons_append, pairsAt, pairAt_here, ok_bind, others, pure_eq_ok, pairs]

theorem paired_highLow {value : Int} (range : 0 ≤ value ∧ value < 0x10000) :
    paired (value / 0x100 % 0x100) (value % 0x100) = value := by
  have high : value / 0x100 % 0x100 = (value.toNat / 0x100 : Nat) := by omega
  have low : value % 0x100 = (value.toNat % 0x100 : Nat) := by omega
  rw [paired, high, low, Bits.union_bytes _ (by omega)]
  omega

theorem pairs_highLow {entries : List Int}
    (words : ∀ entry ∈ entries, 0 ≤ entry ∧ entry < 0x10000) :
    pairs (entries.flatMap highLow) = entries := by
  induction entries with
  | nil => rfl
  | cons entry rest induction =>
      have first := paired_highLow (words entry (by simp))
      have others := induction fun value member => words value (by simp [member])
      simp only [List.flatMap_cons, highLow, List.cons_append, List.nil_append, pairs, first]
      exact congrArg (entry :: ·) others

theorem highLow_paired {high low : Int} (highByte : 0 ≤ high ∧ high < 256)
    (lowByte : 0 ≤ low ∧ low < 256) : highLow (paired high low) = [high, low] := by
  obtain ⟨high, rfl⟩ := Int.eq_ofNat_of_zero_le highByte.1
  obtain ⟨low, rfl⟩ := Int.eq_ofNat_of_zero_le lowByte.1
  rw [paired, Bits.union_bytes high (by omega)]
  simp only [highLow, List.cons.injEq, and_true]
  omega

theorem flatMap_highLow_pairs {count : Nat} {values : List Int}
    (length : values.length = 2 * count) (bytes : ∀ value ∈ values, 0 ≤ value ∧ value < 256) :
    (pairs values).flatMap highLow = values := by
  induction count generalizing values with
  | zero =>
      obtain rfl : values = [] := List.eq_nil_of_length_eq_zero (by omega)
      rfl
  | succ count induction =>
      obtain ⟨high, low, rest, rfl, fewer⟩ := exists_pair length
      have others := induction fewer fun value member => bytes value (by simp [member])
      have first := highLow_paired (bytes high (by simp)) (bytes low (by simp))
      rw [pairs, List.flatMap_cons, first, others]
      rfl

theorem length_pairs {count : Nat} {values : List Int} (length : values.length = 2 * count) :
    (pairs values).length = count := by
  induction count generalizing values with
  | zero =>
      obtain rfl : values = [] := List.eq_nil_of_length_eq_zero (by omega)
      rfl
  | succ count induction =>
      obtain ⟨high, low, rest, rfl, fewer⟩ := exists_pair length
      rw [pairs, List.length_cons, induction fewer]

end Machine

end ChipEight
