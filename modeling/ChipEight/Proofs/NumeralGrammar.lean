import Mathlib.Data.List.TakeWhile
import ChipEight.Proofs.NumeralDigits

namespace ChipEight.Text

/-! Which texts are numerals.

A numeral is described by what it is made of: blanks, a sign, the mark of the base, and digits.  It
is read from the front, and each part starts with characters that the part before it cannot have.
-/

variable {base : Nat} {text rest digits : List Char} {values : List Nat} {c letter : Char}
  {n : Nat} {magnitude? : List Char → Option Nat} {number : Int}

/-- What may stand in front of the digits of a base. -/
inductive IsMark (base : Nat) : List Char → Prop where
  | absent : IsMark base []
  | present {letter : Char} {tail : List Char} (sixteen : base = 16)
      (either : letter = 'x' ∨ letter = 'X') (joined : tail = [] ∨ tail = ['_']) :
      IsMark base ('0' :: letter :: tail)

inductive IsSign : List Char → Int → Prop where
  | absent : IsSign [] 1
  | plus : IsSign ['+'] 1
  | minus : IsSign ['-'] (-1)

/-- A number without a sign, and its value. -/
inductive Magnitude (base : Nat) : List Char → Nat → Prop where
  | mk {mark digits : List Char} {values : List Nat} (marked : IsMark base mark)
      (figured : Digits base digits values) :
      Magnitude base (mark ++ digits) (Nat.ofDigits base values.reverse)

inductive SignedMagnitude (base : Nat) : List Char → Int → Prop where
  | mk {sign rest : List Char} {factor : Int} {n : Nat} (signed : IsSign sign factor)
      (magnitude : Magnitude base rest n) : SignedMagnitude base (sign ++ rest) (factor * n)

/-- A numeral is a number with a sign or without one, and with blanks around it. -/
inductive Numeral (base : Nat) : List Char → Int → Prop where
  | mk {before core behind : List Char} {value : Int} (blankBefore : ∀ c ∈ before, blank c = true)
      (number : SignedMagnitude base core value) (blankBehind : ∀ c ∈ behind, blank c = true) :
      Numeral base (before ++ core ++ behind) value

theorem western_eq_zero_iff : western c = '0' ↔ decimalValue? c = some 0 := by
  constructor
  · intro zero
    cases found : decimalValue? c with
    | none =>
        rw [western_of_none found] at zero
        rw [zero] at found
        exact absurd found (by decide)
    | some value =>
        have read := decimalValue?_digitChar (decimalValue?_lt found)
        rw [← western_of_some found, zero] at read
        exact read.symm.trans (by decide)
  · exact western_of_some

/-- No digit is taken for a mark. -/
theorem afterMark_of_digits (figured : Digits 16 (text.map western) values) :
    afterMark text = text := by
  unfold afterMark
  split
  · next c mark rest =>
    rw [if_neg]
    rintro ⟨-, letter⟩
    have strange : decimalValue? mark = none ∧ digitValue? 16 mark = none ∧ mark ≠ '_' := by
      rcases letter with rfl | rfl <;> decide
    rw [List.map_cons, List.map_cons, western_of_none strange.1] at figured
    cases figured with
    | next digit others =>
        obtain ⟨value, wrong⟩ := others.head
        exact not_isDigit (by decide) strange.1 strange.2.1 wrong
    | apart digit others => exact strange.2.2 rfl
  · rfl

theorem afterMark_present (zero : decimalValue? c = some 0) (either : letter = 'x' ∨ letter = 'X')
    (rest : List Char) :
    afterMark (c :: letter :: rest) = match rest with | '_' :: digits => digits | _ => rest :=
  if_pos ⟨zero, either⟩

/-- One underscore may come between the mark and the digits, which do not start with one. -/
theorem digits_behind_mark {tail behind : List Char} (joined : tail = [] ∨ tail = ['_'])
    (parts : behind.map western = tail ++ digits) (figured : Digits 16 digits values) :
    (match behind with | '_' :: rest => rest | _ => behind).map western = digits := by
  rcases joined with rfl | rfl
  · split
    · next rest =>
      rw [List.map_cons, western_underscore, List.nil_append] at parts
      obtain ⟨value, strange⟩ := (parts ▸ figured).head
      exact absurd strange (not_isDigit (by decide) (by decide) (by decide))
    · exact parts
  · obtain ⟨mark, rest, rfl, underscore, same⟩ := List.map_eq_cons_iff.1 parts
    obtain rfl := (western_eq_iff (by decide)).1 underscore
    exact same

theorem magnitude_of_afterMark (figured : Digits 16 ((afterMark text).map western) values) :
    Magnitude 16 (text.map western) (Nat.ofDigits 16 values.reverse) := by
  unfold afterMark at figured
  split at figured
  · next c letter rest =>
    split at figured
    · next marked =>
      have zero := western_eq_zero_iff.2 marked.1
      have same : western letter = letter := by
        rcases marked.2 with rfl | rfl <;> exact western_of_none (by decide)
      rw [List.map_cons, List.map_cons, zero, same]
      split at figured
      · next digits =>
        rw [List.map_cons, western_underscore]
        exact .mk (.present rfl marked.2 (.inr rfl)) figured
      · exact .mk (.present rfl marked.2 (.inl rfl)) figured
    · exact .mk .absent figured
  · exact .mk .absent figured

theorem digits_of_magnitude (magnitude : Magnitude 16 (text.map western) n) :
    ∃ values, Digits 16 ((afterMark text).map western) values ∧
      Nat.ofDigits 16 values.reverse = n := by
  generalize spelled : text.map western = characters at magnitude
  cases magnitude with
  | @mk mark digits values marked figured =>
    refine ⟨values, ?_, rfl⟩
    cases marked with
    | absent =>
        rw [List.nil_append] at spelled
        rw [← spelled] at figured
        rwa [afterMark_of_digits figured]
    | @present letter tail _ either joined =>
        obtain ⟨c, others, rfl, zero, parts⟩ := List.map_eq_cons_iff.1 spelled
        obtain ⟨other, behind, rfl, same, joins⟩ := List.map_eq_cons_iff.1 parts
        have plain : decimalValue? letter = none := by rcases either with rfl | rfl <;> decide
        obtain rfl := (western_eq_iff plain).1 same
        rw [afterMark_present (western_eq_zero_iff.1 zero) either,
          digits_behind_mark joined joins figured]
        exact figured

theorem hexadecimal?_eq_some_iff :
    hexadecimal? text = some n ↔ Magnitude 16 (text.map western) n := by
  simp only [hexadecimal?, Option.map_eq_some_iff, figures_eq_some_iff (Nat.le_refl 16), valueOf_eq]
  constructor
  · rintro ⟨values, figured, rfl⟩
    exact magnitude_of_afterMark figured
  · exact digits_of_magnitude

theorem decimal?_eq_some_iff (short : text.length ≤ decimalLimit) :
    decimal? text = some n ↔ Magnitude 10 (text.map western) n := by
  simp only [decimal?, Option.bind_eq_bind, Option.bind_eq_some_iff,
    figures_eq_some_iff (show 10 ≤ 16 by decide)]
  constructor
  · rintro ⟨values, figured, result⟩
    split at result
    · cases result
    · cases result
      rw [valueOf_eq]
      exact .mk .absent figured
  · intro magnitude
    generalize spelled : text.map western = characters at magnitude
    cases magnitude with
    | @mk mark digits values marked figured =>
      cases marked with
      | present sixteen => cases sixteen
      | absent =>
          have few := figured.length_le
          rw [List.nil_append] at spelled
          rw [← spelled, List.length_map] at few
          refine ⟨values, figured, ?_⟩
          rw [if_neg (by omega), valueOf_eq]
          rfl

theorem Magnitude.head (magnitude : Magnitude base text n) :
    ∃ c rest, text = c :: rest ∧ (c = '0' ∨ ∃ value, IsDigit base c value) := by
  cases magnitude with
  | @mk mark digits values marked figured =>
    cases marked with
    | present => exact ⟨_, _, rfl, .inl rfl⟩
    | absent =>
        cases figured with
        | last digit | next digit | apart digit => exact ⟨_, _, rfl, .inr ⟨_, digit⟩⟩

/-- A number does not start with a sign. -/
theorem Magnitude.not_sign (small : base ≤ 16) (magnitude : Magnitude base (c :: rest) n) :
    c ≠ '-' ∧ c ≠ '+' := by
  obtain ⟨first, _, same, form⟩ := magnitude.head
  obtain ⟨rfl, -⟩ := List.cons.inj same
  rcases form with rfl | ⟨value, digit⟩
  · decide
  · constructor
    · rintro rfl
      exact not_isDigit small (by decide) (by decide) digit
    · rintro rfl
      exact not_isDigit small (by decide) (by decide) digit

theorem western_minus : western '-' = '-' := western_of_none (by decide)

theorem western_plus : western '+' = '+' := western_of_none (by decide)

theorem signed?_minus (magnitude? : List Char → Option Nat) (rest : List Char) :
    signed? magnitude? ('-' :: rest) = (magnitude? rest).map fun n : Nat => -(n : Int) := by
  rw [signed?]
  cases magnitude? rest <;> rfl

theorem signedMagnitude_of_signed?
    (reads : ∀ rest n, rest.length ≤ text.length →
      (magnitude? rest = some n ↔ Magnitude base (rest.map western) n))
    (read : signed? magnitude? text = some number) :
    SignedMagnitude base (text.map western) number := by
  fun_cases signed? magnitude? text with
  | case1 rest =>
    rw [signed?_minus, Option.map_eq_some_iff] at read
    obtain ⟨n, found, rfl⟩ := read
    have magnitude := (reads rest n (Nat.le_succ _)).1 found
    rw [List.map_cons, western_minus, ← Int.neg_one_mul]
    exact .mk .minus magnitude
  | case2 rest =>
    obtain ⟨n, found, rfl⟩ := Option.map_eq_some_iff.1 read
    have magnitude := (reads rest n (Nat.le_succ _)).1 found
    rw [List.map_cons, western_plus, Int.ofNat_eq_natCast, ← Int.one_mul (n : Int)]
    exact .mk .plus magnitude
  | case3 text minus plus =>
    rw [signed?] at read
    · obtain ⟨n, found, rfl⟩ := Option.map_eq_some_iff.1 read
      have magnitude := (reads text n (Nat.le_refl _)).1 found
      rw [Int.ofNat_eq_natCast, ← Int.one_mul (n : Int)]
      exact .mk .absent magnitude
    · exact minus
    · exact plus

theorem signed?_of_signedMagnitude (small : base ≤ 16)
    (reads : ∀ rest n, rest.length ≤ text.length →
      (magnitude? rest = some n ↔ Magnitude base (rest.map western) n))
    (signed : SignedMagnitude base (text.map western) number) :
    signed? magnitude? text = some number := by
  generalize spelled : text.map western = characters at signed
  cases signed with
  | @mk sign rest factor n sign magnitude =>
    cases sign with
    | absent =>
        rw [List.nil_append] at spelled
        rw [← spelled] at magnitude
        have found := (reads text n (Nat.le_refl _)).2 magnitude
        unfold signed?
        split
        · rw [List.map_cons, western_minus] at magnitude
          exact absurd rfl (magnitude.not_sign small).1
        · rw [List.map_cons, western_plus] at magnitude
          exact absurd rfl (magnitude.not_sign small).2
        · rw [found, Int.one_mul]
          rfl
    | plus =>
        obtain ⟨c, rest, rfl, same, rfl⟩ := List.map_eq_cons_iff.1 spelled
        obtain rfl := (western_eq_iff (by decide)).1 same
        have found := (reads rest n (Nat.le_succ _)).2 magnitude
        rw [signed?, found, Int.one_mul]
        rfl
    | minus =>
        obtain ⟨c, rest, rfl, same, rfl⟩ := List.map_eq_cons_iff.1 spelled
        obtain rfl := (western_eq_iff (by decide)).1 same
        have found := (reads rest n (Nat.le_succ _)).2 magnitude
        rw [signed?_minus, found, Int.neg_one_mul]
        rfl

theorem not_blank_digit (small : base ≤ 16) {value : Nat} (digit : IsDigit base c value) :
    blank c = false := by
  obtain ⟨within, form⟩ := digit
  obtain ⟨lower, upper⟩ := blank_digitChar ⟨value, by omega⟩
  rcases form with rfl | rfl
  · exact lower
  · exact upper

theorem Digits.last_digit (figured : Digits base digits values) :
    ∃ front c value, digits = front ++ [c] ∧ IsDigit base c value := by
  induction figured with
  | last digit => exact ⟨[], _, _, rfl, digit⟩
  | @next c _ rest _ digit others induction =>
      obtain ⟨front, last, value, rfl, found⟩ := induction
      exact ⟨c :: front, last, value, rfl, found⟩
  | @apart c _ rest _ digit others induction =>
      obtain ⟨front, last, value, rfl, found⟩ := induction
      exact ⟨c :: '_' :: front, last, value, rfl, found⟩

theorem SignedMagnitude.not_blank (small : base ≤ 16) (signed : SignedMagnitude base text number) :
    (∃ c rest, text = c :: rest ∧ blank c = false) ∧
      ∃ front c, text = front ++ [c] ∧ blank c = false := by
  cases signed with
  | @mk sign rest factor n sign magnitude =>
    constructor
    · cases sign with
      | plus | minus => exact ⟨_, _, rfl, by decide⟩
      | absent =>
          obtain ⟨c, tail, rfl, form⟩ := magnitude.head
          refine ⟨c, tail, rfl, ?_⟩
          rcases form with rfl | ⟨value, digit⟩
          · decide
          · exact not_blank_digit small digit
    · cases magnitude with
      | mk marked figured =>
        obtain ⟨front, c, value, rfl, digit⟩ := figured.last_digit
        exact ⟨_, c, by rw [List.append_assoc, List.append_assoc], not_blank_digit small digit⟩

theorem trim_append {before core behind : List Char} (blankBefore : ∀ c ∈ before, blank c = true)
    (blankBehind : ∀ c ∈ behind, blank c = true)
    (starts : ∃ c rest, core = c :: rest ∧ blank c = false)
    (ends : ∃ front c, core = front ++ [c] ∧ blank c = false) :
    trim (before ++ core ++ behind) = core := by
  have stop {c : Char} {rest : List Char} (filled : blank c = false) :
      (c :: rest).dropWhile blank = c :: rest := by
    rw [List.dropWhile_cons, filled]
    rfl
  have front : (before ++ core ++ behind).dropWhile blank = core ++ behind := by
    obtain ⟨c, rest, rfl, filled⟩ := starts
    rw [List.append_assoc, List.dropWhile_append_of_pos blankBefore, List.cons_append, stop filled]
  have back : (core ++ behind).reverse.dropWhile blank = core.reverse := by
    obtain ⟨front, c, rfl, filled⟩ := ends
    have reversed : ∀ c ∈ behind.reverse, blank c = true := by
      intro c member
      exact blankBehind c (List.mem_reverse.1 member)
    rw [List.reverse_append, List.dropWhile_append_of_pos reversed, List.reverse_concat,
      stop filled]
  rw [trim, front, back, List.reverse_reverse]

/-- What is cut off at both ends are blanks. -/
theorem exists_trimmed (text : List Char) :
    ∃ before behind, text = before ++ trim text ++ behind ∧ (∀ c ∈ before, blank c = true) ∧
      ∀ c ∈ behind, blank c = true := by
  refine ⟨text.takeWhile blank, ((text.dropWhile blank).reverse.takeWhile blank).reverse,
    ?_, ?_, ?_⟩
  · rw [trim, List.append_assoc, ← List.reverse_append, List.takeWhile_append_dropWhile,
      List.reverse_reverse, List.takeWhile_append_dropWhile]
  · intro c member
    exact List.mem_takeWhile_imp member
  · intro c member
    exact List.mem_takeWhile_imp (List.mem_reverse.1 member)

theorem trim_map_western (text : List Char) :
    trim (text.map western) = (trim text).map western := by
  have same : blank ∘ western = blank := funext blank_western
  rw [trim, trim, List.dropWhile_map, same, ← List.map_reverse, List.dropWhile_map, same,
    ← List.map_reverse]

theorem numeral_iff_trim (small : base ≤ 16) :
    Numeral base (text.map western) number ↔
      SignedMagnitude base ((trim text).map western) number := by
  constructor
  · intro numeral
    generalize spelled : text.map western = characters at numeral
    cases numeral with
    | mk blankBefore signed blankBehind =>
      obtain ⟨starts, ends⟩ := signed.not_blank small
      rw [← trim_map_western, spelled, trim_append blankBefore blankBehind starts ends]
      exact signed
  · intro signed
    have blankMap {characters : List Char} (blanks : ∀ c ∈ characters, blank c = true) :
        ∀ c ∈ characters.map western, blank c = true := by
      intro c member
      obtain ⟨other, found, rfl⟩ := List.mem_map.1 member
      exact (blank_western other).trans (blanks other found)
    obtain ⟨before, behind, parts, blankBefore, blankBehind⟩ := exists_trimmed text
    rw [parts, List.map_append, List.map_append]
    exact .mk (blankMap blankBefore) signed (blankMap blankBehind)

theorem hexNumeral?_eq_some_iff :
    hexNumeral? text = some number ↔ Numeral 16 (text.map western) number := by
  have reads : ∀ rest n, rest.length ≤ (trim text).length →
      (hexadecimal? rest = some n ↔ Magnitude 16 (rest.map western) n) :=
    fun rest n _ => hexadecimal?_eq_some_iff
  rw [numeral_iff_trim (Nat.le_refl 16), hexNumeral?]
  exact ⟨signedMagnitude_of_signed? reads, signed?_of_signedMagnitude (Nat.le_refl 16) reads⟩

theorem numeral?_eq_some_iff (short : text.length ≤ decimalLimit) :
    numeral? text = some number ↔ Numeral 10 (text.map western) number := by
  have trimmed : (trim text).length ≤ text.length := by
    obtain ⟨before, behind, parts, -⟩ := exists_trimmed text
    have length := congrArg List.length parts
    rw [List.length_append, List.length_append] at length
    omega
  have reads : ∀ rest n, rest.length ≤ (trim text).length →
      (decimal? rest = some n ↔ Magnitude 10 (rest.map western) n) :=
    fun rest n within => decimal?_eq_some_iff (by omega)
  have small : 10 ≤ 16 := by decide
  rw [numeral_iff_trim small, numeral?]
  exact ⟨signedMagnitude_of_signed? reads, signed?_of_signedMagnitude small reads⟩

theorem Digits.append_digit {value : Nat} (figured : Digits base digits values)
    (digit : IsDigit base c value) : Digits base (digits ++ [c]) (values ++ [value]) := by
  induction figured with
  | last first => exact .next first (.last digit)
  | next first others induction => exact .next first induction
  | apart first others induction => exact .apart first induction

theorem digits_toDigits (n : Nat) :
    ∃ values, Digits 10 ((Nat.toDigits 10 n).map western) values ∧
      Nat.ofDigits 10 values.reverse = n := by
  have figure (value : Nat) (small : value < 10) :
      IsDigit 10 (western (Nat.digitChar value)) value :=
    ⟨small, .inl (western_of_some (decimalValue?_digitChar small))⟩
  induction n using Nat.strongRecOn with
  | ind n induction =>
      by_cases small : n < 10
      · refine ⟨[n], ?_, Nat.ofDigits_singleton⟩
        rw [Nat.toDigits_of_lt_base small]
        exact .last (figure n small)
      · obtain ⟨values, figured, value⟩ := induction (n / 10) (by omega)
        refine ⟨values ++ [n % 10], ?_, ?_⟩
        · rw [Nat.toDigits_of_base_le (by decide) (Nat.not_lt.1 small), List.map_append]
          exact figured.append_digit (figure _ (Nat.mod_lt n (by decide)))
        · rw [List.reverse_append, List.reverse_singleton, List.singleton_append,
            Nat.ofDigits_cons, value]
          exact Nat.mod_add_div n 10

/-- A number is read from the digits it is written with. -/
theorem numeral?_toString (short : (toString n).length ≤ decimalLimit) :
    numeral? (toString n).toList = some (n : Int) := by
  obtain ⟨values, figured, value⟩ := digits_toDigits n
  have magnitude := Magnitude.mk .absent figured
  rw [value] at magnitude
  have numeral : Numeral 10 ([] ++ ([] ++ ([] ++ (Nat.toDigits 10 n).map western)) ++ [])
      (1 * n) :=
    .mk (by simp) (.mk .absent magnitude) (by simp)
  rw [numeral?_eq_some_iff (by rwa [String.length_toList]), Nat.toString_eq_ofList_toDigits,
    String.toList_ofList]
  simpa using numeral

end ChipEight.Text
