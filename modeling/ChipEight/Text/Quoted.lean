import ChipEight.Text.Printable

namespace ChipEight.Text

/-! Text in quotes, as messages show the names of files.

The quotes are single ones, unless only double ones save an escape.  A character
that cannot be printed is shown by its number, in two, four or eight digits.
-/

def single : Char := '\x27'

def double : Char := '\x22'

def backslash : Char := '\x5C'

def smallHex (width n : Nat) : List Char := List.leftpad width '0' (Nat.toDigits 16 n)

def escaped (quote c : Char) : List Char :=
  if c = quote ∨ c = backslash then [backslash, c]
  else if c = '\n' then [backslash, 'n']
  else if c = '\r' then [backslash, 'r']
  else if c = '\t' then [backslash, 't']
  else if printable c then [c]
  else if c.toNat < 0x100 then backslash :: 'x' :: smallHex 2 c.toNat
  else if c.toNat < 0x10000 then backslash :: 'u' :: smallHex 4 c.toNat
  else backslash :: 'U' :: smallHex 8 c.toNat

def quoteFor (text : List Char) : Char :=
  if text.contains single && !text.contains double then double else single

def quoted (text : String) : String :=
  let quote := quoteFor text.toList
  String.ofList (quote :: text.toList.flatMap (escaped quote) ++ [quote])

end ChipEight.Text
