namespace ChipEight.Text

/-! Numbers as they stand in listings, dumps and messages.

Columns are filled with zeros on the left, and a minus sign takes one of the
columns: minus one in four columns is `-001`.
-/

def hexDigits (n : Nat) : List Char :=
  (Nat.toDigits 16 n).map Char.toUpper

def hex (width : Nat) (value : Int) : String :=
  if value < 0 then
    String.ofList ('-' :: List.leftpad (width - 1) '0' (hexDigits value.natAbs))
  else
    String.ofList (List.leftpad width '0' (hexDigits value.natAbs))

def hexByte (byte : UInt8) : String := hex 2 byte.toNat

/-- Addresses and words carry a dollar sign and at least four digits. -/
def dollar (value : Int) : String := "$" ++ hex 4 value

/-- Lower case after `0x`, unpadded; the sign stands in front of both. -/
def hexLiteral (value : Int) : String :=
  (if value < 0 then "-0x" else "0x") ++ String.ofList (Nat.toDigits 16 value.natAbs)

def decimal (width n : Nat) : String :=
  String.ofList (List.leftpad width '0' (Nat.toDigits 10 n))

def padRight (width : Nat) (text : String) : String :=
  text ++ String.ofList (List.replicate (width - text.length) ' ')

end ChipEight.Text
