import ChipEight.Signed

namespace ChipEight.Slice

/-! Signed positions in a sequence.

A negative position counts from the end.  A single element has to exist; a
window is cut off at both ends of the sequence instead.
-/

variable {α : Type}

/-- A cut of a window, moved to the nearest end when it lies outside. -/
def cut (length : Nat) (position : Int) : Nat :=
  min (if position < 0 then position + length else position).toNat length

def window (values : List α) (start stop : Int) : List α :=
  (values.drop (cut values.length start)).take
    (cut values.length stop - cut values.length start)

theorem window_append (before block after : List α) :
    window (before ++ (block ++ after)) before.length (before.length + block.length) = block := by
  have start : cut (before ++ (block ++ after)).length before.length = before.length := by
    simp only [cut, List.length_append]
    omega
  have stop : cut (before ++ (block ++ after)).length (before.length + block.length) =
      before.length + block.length := by
    simp only [cut, List.length_append]
    omega
  unfold window
  rw [start, stop]
  simp

/-- No sequence has an element at a position of more than 63 bits; the fault tells
such a position from one that is merely outside. -/
def element (values : List α) (position : Int) : Except Fault α :=
  let index := if position < 0 then position + values.length else position
  match if index < 0 then none else values[index.toNat]? with
  | some value => .ok value
  | none => .error (if Signed.fits 64 position then .positionOutside else .positionTooLarge)

theorem element_eq_ok_iff {values : List α} {position : Int} {value : α} :
    element values position = .ok value ↔
      ∃ index : Nat, index = (if position < 0 then position + values.length else position) ∧
        values[index]? = some value := by
  obtain ⟨counted, same⟩ : ∃ counted, counted = if position < 0 then position + values.length
      else position := ⟨_, rfl⟩
  simp only [element, ← same]
  by_cases below : counted < 0
  · simp only [if_pos below, reduceCtorEq, false_iff]
    rintro ⟨index, negative, -⟩
    omega
  · obtain ⟨index, rfl⟩ := Int.eq_ofNat_of_zero_le (Int.not_lt.1 below)
    simp only [if_neg below, Int.toNat_natCast, Int.natCast_inj, exists_eq_left]
    cases values[index]? <;> simp

theorem element_natCast_iff {values : List α} {place : Nat} {value : α} :
    element values place = .ok value ↔ values[place]? = some value := by
  simp only [element_eq_ok_iff, if_neg (Int.not_lt.2 (Int.natCast_nonneg place)), Int.natCast_inj,
    exists_eq_left]

/-- A bound between `low` and `high`, after a negative one has been counted from
the end. -/
def confine (length : Nat) (low high bound : Int) : Int :=
  max low (min high (if bound < 0 then bound + length else bound))

/-- The places a stepped slice visits, in order.  An absent bound is the end of
the sequence that the step starts from or runs to. -/
def places (length : Nat) (start stop step : Option Int) : Except Fault (List Nat) :=
  let step := step.getD 1
  if step = 0 then .error .zeroStep
  else if 0 < step then
    let first := (start.map (confine length 0 length)).getD 0
    let last := (stop.map (confine length 0 length)).getD length
    let count := if first < last then ((last - first - 1) / step + 1).toNat else 0
    .ok ((List.range count).map fun (k : Nat) => (first + k * step).toNat)
  else
    let high : Int := (length : Int) - 1
    let first := (start.map (confine length (-1) high)).getD high
    let last := (stop.map (confine length (-1) high)).getD (-1)
    let count := if last < first then ((first - last - 1) / (-step) + 1).toNat else 0
    .ok ((List.range count).map fun (k : Nat) => (first + k * step).toNat)

/-- Consecutive pieces of `size` elements, at least one; the last piece may be
shorter. -/
def pieces (size : Nat) : List α → List (List α)
  | [] => []
  | value :: rest =>
      (value :: rest.take (size - 1)) :: pieces size (rest.drop (size - 1))
termination_by values => values.length
decreasing_by
  simp only [List.length_cons, List.length_drop]
  omega

@[simp] theorem flatten_pieces (size : Nat) (values : List α) :
    (pieces size values).flatten = values := by
  fun_induction pieces size values with
  | case1 => rfl
  | case2 value rest induction => simp [induction]

theorem length_le_of_mem_pieces {size : Nat} (positive : 0 < size) {values piece : List α}
    (found : piece ∈ pieces size values) : piece.length ≤ size := by
  fun_induction pieces size values with
  | case1 => simp at found
  | case2 value rest induction =>
      rcases List.mem_cons.1 found with rfl | later
      · simp only [List.length_cons, List.length_take]
        omega
      · exact induction later

/-- A piece is what a window of its size shows. -/
theorem getElem?_pieces {size : Nat} (positive : 0 < size) (values : List α) (place : Nat) :
    (pieces size values)[place]? =
      if size * place < values.length then some ((values.drop (size * place)).take size)
      else none := by
  obtain ⟨more, rfl⟩ := Nat.exists_eq_add_of_le' positive
  fun_induction pieces (more + 1) values generalizing place with
  | case1 => rfl
  | case2 value rest induction =>
      cases place with
      | zero => simp
      | succ place =>
          have next : (more + 1) * (place + 1) = (more + (more + 1) * place) + 1 := by
            rw [Nat.mul_succ]
            omega
          rw [List.getElem?_cons_succ, induction, next, List.drop_succ_cons, List.drop_drop,
            Nat.add_sub_cancel, List.length_drop, List.length_cons]
          simp only [Nat.lt_sub_iff_add_lt', Nat.add_lt_add_iff_right]

theorem of_getElem?_pieces {size : Nat} (positive : 0 < size) {values piece : List α} {place : Nat}
    (found : (pieces size values)[place]? = some piece) :
    piece = (values.drop (size * place)).take size ∧ piece ≠ [] := by
  rw [getElem?_pieces positive] at found
  split at found
  · next inside =>
    cases found
    refine ⟨rfl, List.ne_nil_of_length_pos ?_⟩
    rw [List.length_take, List.length_drop]
    omega
  · cases found

theorem length_pieces {size : Nat} (positive : 0 < size) (values : List α) :
    (pieces size values).length = (values.length + (size - 1)) / size := by
  have beyond (place : Nat) :
      (pieces size values).length ≤ place ↔ values.length ≤ size * place := by
    rw [← List.getElem?_eq_none_iff, getElem?_pieces positive]
    split <;> simp <;> omega
  apply Nat.le_antisymm
  · rw [beyond]
    have := Nat.div_add_mod (values.length + (size - 1)) size
    have := Nat.mod_lt (values.length + (size - 1)) positive
    omega
  · apply Nat.le_of_lt_succ
    rw [Nat.div_lt_iff_lt_mul positive, Nat.mul_comm, Nat.mul_succ]
    have := (beyond _).1 (Nat.le_refl (pieces size values).length)
    omega

end ChipEight.Slice
