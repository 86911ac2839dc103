import ChipEight.Command.Address
import ChipEight.Proofs.NumeralGrammar

namespace ChipEight.Command

/-! Which texts are addresses.

The first characters tell the base.  What follows a dollar sign is a numeral of its own, with a sign
and a mark of its own, and `0x` is part of the numeral that it starts.
-/

open Text

/-- The numeral in the text of an address, and its base. -/
def bodyOf (text : List Char) : List Char × Nat :=
  if ['0', 'x'] <+: text ∨ ['0', 'X'] <+: text then (text, 16)
  else if ['$'] <+: text then (text.tail, 16)
  else (text, 10)

/-- The text of an address stands for a number. -/
def Spells (text : List Char) (value : Int) : Prop :=
  Numeral (bodyOf text).2 ((bodyOf text).1.map western) value

theorem addressNumeral?_eq_some_iff {text : List Char} {value : Int}
    (short : text.length ≤ decimalLimit) :
    addressNumeral? text = some value ↔ Spells text value := by
  unfold addressNumeral? Spells
  split
  · exact hexNumeral?_eq_some_iff
  · exact hexNumeral?_eq_some_iff
  · exact hexNumeral?_eq_some_iff
  · next small large dollar =>
    have decimal : bodyOf text = (text, 10) := by
      rw [bodyOf, if_neg, if_neg]
      · rintro ⟨rest, rfl⟩
        exact dollar rest rfl
      · rintro (⟨rest, rfl⟩ | ⟨rest, rfl⟩)
        · exact small rest rfl
        · exact large rest rfl
    rw [decimal]
    exact numeral?_eq_some_iff short

variable {text : String} {value : Int}

theorem readAddress_of_spells (short : text.length ≤ decimalLimit)
    (spells : Spells text.toList value) :
    readAddress text =
      if 0 ≤ value ∧ value ≤ 0xFFFF then .ok value else .error (.addressOutOfRange text) := by
  rw [readAddress, (addressNumeral?_eq_some_iff short).2 spells]

theorem readAddress_of_none (short : text.length ≤ decimalLimit)
    (none : ¬ ∃ value, Spells text.toList value) :
    readAddress text = .error (.invalidAddress text) := by
  cases found : addressNumeral? text.toList with
  | none => rw [readAddress, found]
  | some value => exact absurd ⟨value, (addressNumeral?_eq_some_iff short).1 found⟩ none

/-- The texts that stand for an address are those that spell a number from 0 to 65535.  The message
about any other text tells a number that is too large or too small from a text that is none. -/
theorem address_grammar (text : String) (short : text.length ≤ 4300) :
    (∀ address, readAddress text = .ok address ↔
        Spells text.toList address ∧ 0 ≤ address ∧ address ≤ 65535) ∧
      (∀ fault, readAddress text = .error fault ↔
        (fault = .addressOutOfRange text ∧
            ∃ value, Spells text.toList value ∧ ¬ (0 ≤ value ∧ value ≤ 65535)) ∨
          fault = .invalidAddress text ∧ ¬ ∃ value, Spells text.toList value) ∧
      ((Fault.addressOutOfRange text).kind = .parameter ∧
        (Fault.addressOutOfRange text).message =
          "Address must be 0-65535 (0x0000-0xFFFF), got " ++ text) ∧
      (Fault.invalidAddress text).kind = .parameter ∧
        (Fault.invalidAddress text).message = "Invalid address '" ++ text ++ "'" := by
  refine ⟨?_, ?_, ⟨rfl, rfl⟩, rfl, rfl⟩
  · intro address
    constructor
    · intro read
      by_cases spelled : ∃ value, Spells text.toList value
      · obtain ⟨value, spells⟩ := spelled
        rw [readAddress_of_spells short spells] at read
        split at read
        · next range =>
          cases read
          exact ⟨spells, range⟩
        · cases read
      · cases (readAddress_of_none short spelled).symm.trans read
    · rintro ⟨spells, range⟩
      rw [readAddress_of_spells short spells, if_pos range]
  · intro fault
    constructor
    · intro read
      by_cases spelled : ∃ value, Spells text.toList value
      · obtain ⟨value, spells⟩ := spelled
        rw [readAddress_of_spells short spells] at read
        split at read
        · cases read
        · next outside =>
          cases read
          exact .inl ⟨rfl, value, spells, outside⟩
      · cases (readAddress_of_none short spelled).symm.trans read
        exact .inr ⟨rfl, spelled⟩
    · rintro (⟨rfl, value, spells, outside⟩ | ⟨rfl, spelled⟩)
      · rw [readAddress_of_spells short spells, if_neg outside]
      · exact readAddress_of_none short spelled

/-- Blanks, a sign, a second mark with an underscore, and a digit of another script. -/
theorem address_with_everything :
    "$ +0X_1_F\u0663\u3000".length ≤ 4300 ∧ Spells "$ +0X_1_F\u0663\u3000".toList 0x1F3 ∧
      readAddress "$ +0X_1_F\u0663\u3000" = .ok 0x1F3 := by
  have short : "$ +0X_1_F\u0663\u3000".length ≤ 4300 := by decide
  have spelled : (bodyOf "$ +0X_1_F\u0663\u3000".toList).1.map western =
      [' '] ++ (['+'] ++ (['0', 'X', '_'] ++ ['1', '_', 'F', '3'])) ++ ['\u3000'] := by decide
  have digits : Digits 16 ['1', '_', 'F', '3'] [1, 15, 3] :=
    .apart ⟨by decide, .inl rfl⟩ (.next ⟨by decide, .inr rfl⟩ (.last ⟨by decide, .inl rfl⟩))
  have magnitude : Magnitude 16 (['0', 'X', '_'] ++ ['1', '_', 'F', '3']) 0x1F3 :=
    .mk (.present rfl (.inr rfl) (.inr rfl)) digits
  have spells : Spells "$ +0X_1_F\u0663\u3000".toList 0x1F3 := by
    rw [Spells, spelled]
    exact .mk (List.forall_mem_singleton.2 rfl) (.mk .plus magnitude)
      (List.forall_mem_singleton.2 rfl)
  obtain ⟨accepted, -⟩ := address_grammar "$ +0X_1_F\u0663\u3000" short
  exact ⟨short, spells, (accepted _).2 ⟨spells, by decide⟩⟩

end ChipEight.Command
