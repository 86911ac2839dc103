namespace ChipEight.Text

/-! Blank space around numerals: spaces of every width, tabs and line ends, but
not the information separators. -/

def blanks : List Char :=
  [' ', '\t', '\n', '\x0B', '\x0C', '\r', '\u0085', '\u00A0', '\u1680', '\u2000', '\u2001',
    '\u2002', '\u2003', '\u2004', '\u2005', '\u2006', '\u2007', '\u2008', '\u2009', '\u200A',
    '\u2028', '\u2029', '\u202F', '\u205F', '\u3000']

def blank (c : Char) : Bool := blanks.contains c

/-- The text without the blanks at both ends. -/
def trim (text : List Char) : List Char :=
  ((text.dropWhile blank).reverse.dropWhile blank).reverse

end ChipEight.Text
