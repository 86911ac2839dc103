import ChipEight.Text.Digit
import ChipEight.Text.Number

namespace ChipEight.Text

/-! Numbers read back from the digits they are written with.

Digits are added at the right, by the number divided by its base, and zeros at the left.  The
reader goes from the left and takes both.
-/

variable {base n : Nat} {digits : List Char}

/-- The value of nothing but digits, the highest one first. -/
def number? (base : Nat) (digits : List Char) : Option Nat :=
  digits.foldlM (fun total digit => (digitValue? base digit).map (total * base + ·)) 0

theorem number?_append_digit {total value : Nat} {digit : Char}
    (before : number? base digits = some total) (last : digitValue? base digit = some value) :
    number? base (digits ++ [digit]) = some (total * base + value) := by
  simp only [number?] at before
  simp only [number?, List.foldlM_append, before, List.foldlM_cons, List.foldlM_nil, last,
    Option.map_some, Option.bind_eq_bind, Option.bind_some, pure]

theorem number?_zeros (zero : digitValue? base '0' = some 0) (width : Nat) (digits : List Char) :
    number? base (List.leftpad width '0' digits) = number? base digits := by
  simp only [List.leftpad]
  induction width - digits.length with
  | zero => rfl
  | succ missing induction =>
      simp only [number?] at induction ⊢
      rw [List.replicate_succ, List.cons_append, List.foldlM_cons, zero]
      simpa using induction

/-- The digits may be shown otherwise, as long as each one can be read. -/
theorem number?_toDigits {view : Char → Char} (several : 1 < base)
    (reads : ∀ digit < base, digitValue? base (view (Nat.digitChar digit)) = some digit) (n : Nat) :
    number? base ((Nat.toDigits base n).map view) = some n := by
  induction n using Nat.strongRecOn with
  | ind n induction =>
      by_cases small : n < base
      · have read : number? base ([] ++ [view (Nat.digitChar n)]) = some (0 * base + n) :=
          number?_append_digit rfl (reads n small)
        rw [Nat.toDigits_of_lt_base small]
        simpa using read
      · have larger : base ≤ n := Nat.not_lt.1 small
        have fewer : n / base < n := Nat.div_lt_self (by omega) several
        have last := reads (n % base) (Nat.mod_lt n (by omega))
        rw [Nat.toDigits_of_base_le several larger, List.map_append, List.map_singleton,
          number?_append_digit (induction _ fewer) last, Nat.mul_comm, Nat.div_add_mod]

theorem digitValue?_hex (digit : Nat) (small : digit < 16) :
    digitValue? 16 (Nat.digitChar digit).toUpper = some digit := by
  have all : ∀ digit : Fin 16,
      digitValue? 16 (Nat.digitChar digit.val).toUpper = some digit.val := by
    decide
  exact all ⟨digit, small⟩

theorem digitValue?_decimal (digit : Nat) (small : digit < 10) :
    digitValue? 10 (Nat.digitChar digit) = some digit := by
  have all : ∀ digit : Fin 10, digitValue? 10 (Nat.digitChar digit.val) = some digit.val := by
    decide
  exact all ⟨digit, small⟩

theorem digitValue?_zero : digitValue? 16 '0' = some 0 := digitValue?_hex 0 (by decide)

theorem number?_hexDigits (n : Nat) : number? 16 (hexDigits n) = some n :=
  @number?_toDigits 16 Char.toUpper (by decide) digitValue?_hex n

theorem toList_hex (width n : Nat) :
    (hex width n).toList = List.leftpad width '0' (hexDigits n) := by
  rw [hex, if_neg (by omega), String.toList_ofList, Int.natAbs_natCast]

theorem number?_hex (width n : Nat) : number? 16 (hex width n).toList = some n := by
  rw [toList_hex, number?_zeros digitValue?_zero, number?_hexDigits]

theorem number?_decimalDigits (n : Nat) : number? 10 (Nat.toDigits 10 n) = some n := by
  have read := @number?_toDigits 10 id (by decide) digitValue?_decimal n
  rwa [List.map_id] at read

theorem number?_decimal (width n : Nat) : number? 10 (decimal width n).toList = some n := by
  rw [decimal, String.toList_ofList, number?_zeros rfl, number?_decimalDigits]

theorem number?_toString (n : Nat) : number? 10 (toString n).toList = some n := by
  rw [Nat.toString_eq_ofList_toDigits, String.toList_ofList, number?_decimalDigits]

/-- A number below the base is one digit. -/
theorem toList_hex_one (small : n < 16) : (hex 1 n).toList = [(Nat.digitChar n).toUpper] := by
  rw [toList_hex, hexDigits, Nat.toDigits_of_lt_base small]
  rfl

end ChipEight.Text
