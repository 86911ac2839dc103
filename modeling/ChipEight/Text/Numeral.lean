import ChipEight.Text.Blank
import ChipEight.Text.Digit

namespace ChipEight.Text

/-! Integers as people write them.

A numeral may have blanks around it, one sign, and single underscores between its
digits.  In base sixteen the digits may follow `0x`, and one underscore with it.
A decimal numeral has at most 4300 digits.
-/

/-- The values of digits with single underscores between them. -/
def figures (base : Nat) : List Char → Option (List Nat)
  | [] => none
  | [c] => (digitValue? base c).map ([·])
  | c :: '_' :: rest => do
      let value ← digitValue? base c
      let values ← figures base rest
      return value :: values
  | c :: rest => do
      let value ← digitValue? base c
      let values ← figures base rest
      return value :: values

def valueOf (base : Nat) (values : List Nat) : Nat :=
  values.foldl (fun total value => total * base + value) 0

def decimalLimit : Nat := 4300

/-- What follows a mark of base sixteen, if there is one. -/
def afterMark (text : List Char) : List Char :=
  match text with
  | c :: mark :: rest =>
      if decimalValue? c = some 0 ∧ (mark = 'x' ∨ mark = 'X') then
        match rest with
        | '_' :: digits => digits
        | _ => rest
      else text
  | _ => text

def hexadecimal? (text : List Char) : Option Nat :=
  (figures 16 (afterMark text)).map (valueOf 16)

def decimal? (text : List Char) : Option Nat := do
  let values ← figures 10 text
  if decimalLimit < values.length then none else return valueOf 10 values

/-- Reads a sign and then a magnitude. -/
def signed? (magnitude? : List Char → Option Nat) (text : List Char) : Option Int :=
  match text with
  | '-' :: rest => (magnitude? rest).map fun n => -(n : Int)
  | '+' :: rest => (magnitude? rest).map Int.ofNat
  | _ => (magnitude? text).map Int.ofNat

def hexNumeral? (text : List Char) : Option Int := signed? hexadecimal? (trim text)

def numeral? (text : List Char) : Option Int := signed? decimal? (trim text)

end ChipEight.Text
