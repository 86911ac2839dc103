import Mathlib.Data.Nat.Digits.Defs
import ChipEight.Proofs.Numerals
import ChipEight.Text.Numeral

namespace ChipEight.Text

/-! The digits of a numeral, in any script.

They are described here in Western digits, and read by their values.  A digit of another script is
the Western digit of its value, and nothing else becomes a digit, so that the two agree.
-/

variable {base : Nat} {text rest digits : List Char} {values : List Nat} {c : Char} {value : Nat}

/-- A digit of any script as the Western digit of its value. -/
def western (c : Char) : Char := (decimalValue? c).elim c Nat.digitChar

/-- A digit of a base, a letter in either case. -/
def IsDigit (base : Nat) (c : Char) (value : Nat) : Prop :=
  value < base ∧ (c = Nat.digitChar value ∨ c = (Nat.digitChar value).toUpper)

/-- One or more digits and their values, with no more than one underscore between two of them. -/
inductive Digits (base : Nat) : List Char → List Nat → Prop where
  | last {c : Char} {value : Nat} (digit : IsDigit base c value) : Digits base [c] [value]
  | next {c : Char} {value : Nat} {rest : List Char} {values : List Nat}
      (digit : IsDigit base c value) (others : Digits base rest values) :
      Digits base (c :: rest) (value :: values)
  | apart {c : Char} {value : Nat} {rest : List Char} {values : List Nat}
      (digit : IsDigit base c value) (others : Digits base rest values) :
      Digits base (c :: '_' :: rest) (value :: values)

theorem decimalValue?_lt (found : decimalValue? c = some value) : value < 10 := by
  obtain ⟨first, zero, rfl⟩ := Option.map_eq_some_iff.1 found
  have range := List.find?_some zero
  simp only [Bool.and_eq_true, decide_eq_true_eq] at range
  omega

theorem decimalValue?_digitChar (small : value < 10) :
    decimalValue? (Nat.digitChar value) = some value := by
  have all : ∀ value : Fin 10, decimalValue? (Nat.digitChar value.val) = some value.val := by decide
  exact all ⟨value, small⟩

theorem western_of_some (found : decimalValue? c = some value) :
    western c = Nat.digitChar value := by
  rw [western, found]
  rfl

theorem western_of_none (other : decimalValue? c = none) : western c = c := by
  rw [western, other]
  rfl

/-- Only a digit becomes a digit. -/
theorem western_eq_iff {other : Char} (none : decimalValue? other = none) :
    western c = other ↔ c = other := by
  constructor
  · intro same
    cases found : decimalValue? c with
    | none => rwa [western_of_none found] at same
    | some value =>
        have digit := decimalValue?_digitChar (decimalValue?_lt found)
        rw [← western_of_some found, same, none] at digit
        cases digit
  · rintro rfl
    exact western_of_none none

/-- No digit is a blank. -/
theorem blank_digitChar : ∀ value : Fin 16, blank (Nat.digitChar value.val) = false ∧
    blank (Nat.digitChar value.val).toUpper = false := by
  decide

theorem decimalValue?_of_blank (filled : c ∈ blanks) : decimalValue? c = none := by
  have all : blanks.all (fun c => (decimalValue? c).isNone) = true := by decide
  exact Option.isNone_iff_eq_none.1 (List.all_eq_true.1 all c filled)

theorem blank_western (c : Char) : blank (western c) = blank c := by
  cases found : decimalValue? c with
  | none => rw [western_of_none found]
  | some value =>
      have small := decimalValue?_lt found
      have filled : blank c = false := by
        rw [blank, List.contains_eq_mem, decide_eq_false_iff_not]
        intro member
        rw [decimalValue?_of_blank member] at found
        cases found
      rw [western_of_some found, (blank_digitChar ⟨value, by omega⟩).1, filled]

/-- A digit of a smaller base is one of base sixteen as well. -/
theorem digitValue?_of_le (small : base ≤ 16) :
    digitValue? base c = some value ↔ digitValue? 16 c = some value ∧ value < base := by
  simp only [digitValue?, Option.filter_eq_some_iff, decide_eq_true_eq]
  constructor
  · rintro ⟨found, within⟩
    exact ⟨⟨found, by omega⟩, within⟩
  · rintro ⟨⟨found, -⟩, within⟩
    exact ⟨found, within⟩

theorem digitValue?_lower (small : value < 16) :
    digitValue? 16 (Nat.digitChar value) = some value := by
  have all : ∀ value : Fin 16, digitValue? 16 (Nat.digitChar value.val) = some value.val := by
    decide
  exact all ⟨value, small⟩

/-- A letter is as far from the first one as the digit that it is from ten. -/
theorem isDigit_letter (other : decimalValue? c = none) (found : digitValue? 16 c = some value) :
    IsDigit 16 c value := by
  have letters : ∀ value : Fin 16, 10 ≤ value.val →
      (Nat.digitChar value.val).toNat = 87 + value.val ∧
        (Nat.digitChar value.val).toUpper.toNat = 55 + value.val := by
    decide
  obtain ⟨letter, small⟩ := Option.filter_eq_some_iff.1 found
  have within : value < 16 := of_decide_eq_true small
  simp only [other] at letter
  split at letter
  · next range =>
    have low : 97 ≤ c.toNat := Char.le_def.1 range.1
    have code : c.toNat - 97 + 10 = value := Option.some.inj letter
    refine ⟨within, .inl (Char.toNat_inj.1 ?_)⟩
    rw [(letters ⟨value, within⟩ (by simp only; omega)).1]
    simp only
    omega
  · split at letter
    · next range =>
      have low : 65 ≤ c.toNat := Char.le_def.1 range.1
      have code : c.toNat - 65 + 10 = value := Option.some.inj letter
      refine ⟨within, .inr (Char.toNat_inj.1 ?_)⟩
      rw [(letters ⟨value, within⟩ (by simp only; omega)).2]
      simp only
      omega
    · cases letter

theorem digitValue?_eq_some_iff (small : base ≤ 16) :
    digitValue? base c = some value ↔ IsDigit base (western c) value := by
  rw [digitValue?_of_le small]
  constructor
  · rintro ⟨found, within⟩
    cases decimal : decimalValue? c with
    | none =>
        rw [western_of_none decimal]
        exact ⟨within, (isDigit_letter decimal found).2⟩
    | some figure =>
        simp only [digitValue?, decimal, Option.filter_eq_some_iff, Option.some.injEq] at found
        rw [western_of_some decimal, found.1]
        exact ⟨within, .inl rfl⟩
  · rintro ⟨within, form⟩
    refine ⟨?_, within⟩
    have few : value < 16 := by omega
    have read : digitValue? 16 (western c) = some value := by
      rcases form with lower | upper
      · rw [lower, digitValue?_lower few]
      · rw [upper, digitValue?_hex value few]
    cases decimal : decimalValue? c with
    | none => rwa [western_of_none decimal] at read
    | some figure =>
        have ten := decimalValue?_lt decimal
        rw [western_of_some decimal, digitValue?_lower (by omega)] at read
        cases read
        simp only [digitValue?, decimal, Option.filter_eq_some_iff, decide_eq_true_eq, true_and]
        exact few

theorem western_underscore : western '_' = '_' := western_of_none (by decide)

theorem not_isDigit (small : base ≤ 16) (other : decimalValue? c = none)
    (none : digitValue? 16 c = none) : ¬ IsDigit base c value := by
  intro digit
  rw [← western_of_none other, ← digitValue?_eq_some_iff small, digitValue?_of_le small,
    none] at digit
  cases digit.1

theorem Digits.length_le (figured : Digits base digits values) :
    values.length ≤ digits.length := by
  induction figured with
  | last digit => rfl
  | next digit others induction => exact Nat.succ_le_succ induction
  | apart digit others induction =>
      simp only [List.length_cons] at induction ⊢
      omega

theorem Digits.head (figured : Digits base (c :: rest) values) : ∃ value, IsDigit base c value := by
  cases figured with
  | last digit | next digit | apart digit => exact ⟨_, digit⟩

theorem figures_cons (first : Char) (c : Char) (other : c ≠ '_') :
    figures base (first :: c :: rest) =
      (digitValue? base first).bind fun value => (figures base (c :: rest)).map (value :: ·) := by
  rw [figures]
  · cases digitValue? base first with
    | none => rfl
    | some value => cases figures base (c :: rest) <;> rfl
  · exact List.cons_ne_nil c rest
  · rintro tail same
    exact other (List.cons.inj same).1

theorem digits_of_figures (small : base ≤ 16) (read : figures base text = some values) :
    Digits base (text.map western) values := by
  fun_induction figures base text generalizing values with
  | case1 => cases read
  | case2 c =>
      obtain ⟨value, found, rfl⟩ := Option.map_eq_some_iff.1 read
      exact .last ((digitValue?_eq_some_iff small).1 found)
  | case3 c rest induction =>
      simp only [Option.bind_eq_bind, Option.bind_eq_some_iff] at read
      obtain ⟨value, found, others, later, result⟩ := read
      cases result
      rw [List.map_cons, List.map_cons, western_underscore]
      exact .apart ((digitValue?_eq_some_iff small).1 found) (induction later)
  | case4 c rest _ _ induction =>
      simp only [Option.bind_eq_bind, Option.bind_eq_some_iff] at read
      obtain ⟨value, found, others, later, result⟩ := read
      cases result
      exact .next ((digitValue?_eq_some_iff small).1 found) (induction later)

theorem figures_of_digits (small : base ≤ 16) (figured : Digits base (text.map western) values) :
    figures base text = some values := by
  generalize same : text.map western = digits at figured
  induction figured generalizing text with
  | last digit =>
      obtain ⟨c, rfl, rfl⟩ := List.map_eq_singleton_iff.1 same
      rw [figures, (digitValue?_eq_some_iff small).2 digit]
      rfl
  | next digit others induction =>
      obtain ⟨c, rest, rfl, rfl, rfl⟩ := List.map_eq_cons_iff.1 same
      have later := induction rfl
      cases rest with
      | nil => cases later
      | cons second rest =>
          have figure : second ≠ '_' := by
            rintro rfl
            obtain ⟨value, strange⟩ := Digits.head others
            rw [western_underscore] at strange
            exact not_isDigit small (by decide) (by decide) strange
          rw [figures_cons c second figure, (digitValue?_eq_some_iff small).2 digit, later]
          rfl
  | apart digit others induction =>
      obtain ⟨c, tail, rfl, rfl, parts⟩ := List.map_eq_cons_iff.1 same
      obtain ⟨mark, rest, rfl, underscore, rfl⟩ := List.map_eq_cons_iff.1 parts
      obtain rfl := (western_eq_iff (by decide)).1 underscore
      rw [figures, (digitValue?_eq_some_iff small).2 digit, induction rfl]
      rfl

theorem figures_eq_some_iff (small : base ≤ 16) :
    figures base text = some values ↔ Digits base (text.map western) values :=
  ⟨digits_of_figures small, figures_of_digits small⟩

theorem valueOf_eq (base : Nat) (values : List Nat) :
    valueOf base values = Nat.ofDigits base values.reverse := by
  rw [Nat.ofDigits_eq_foldr, List.foldr_reverse, valueOf]
  simp only [Nat.cast_id, Nat.add_comm, Nat.mul_comm]

end ChipEight.Text
