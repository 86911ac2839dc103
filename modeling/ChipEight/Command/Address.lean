import ChipEight.Fault
import ChipEight.Text.Numeral

namespace ChipEight.Command

/-! Addresses on the command line.

A dollar sign or `0x` marks base sixteen; everything else is decimal.
-/

open Text

/-- The number a text stands for, without a limit. -/
def addressNumeral? (text : List Char) : Option Int :=
  match text with
  | '0' :: 'x' :: _ | '0' :: 'X' :: _ => hexNumeral? text
  | '$' :: rest => hexNumeral? rest
  | _ => numeral? text

def readAddress (text : String) : Except Fault Int :=
  match addressNumeral? text.toList with
  | none => .error (.invalidAddress text)
  | some address =>
      if 0 ≤ address ∧ address ≤ 0xFFFF then .ok address
      else .error (.addressOutOfRange text)

end ChipEight.Command
