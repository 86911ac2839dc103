import ChipEight.Text.CaseTable

namespace ChipEight.Text

/-! Small letters.

Nearly every capital has one small letter.  A dotted capital I has two characters
instead, and a capital sigma has another small letter at the end of a word.
-/

def inRanges (ranges : List (Nat × Nat)) (c : Char) : Bool :=
  ranges.any fun range => range.1 ≤ c.toNat && c.toNat ≤ range.2

def cased (c : Char) : Bool := inRanges casedRanges c

def ignorable (c : Char) : Bool := inRanges ignorableRanges c

def smallLetter (c : Char) : Char :=
  let run := smallLetterRuns.find? fun (first, last, step, _) =>
    first ≤ c.toNat && c.toNat ≤ last && (c.toNat - first) % step == 0
  match run with
  | some (_, _, _, shift) => Char.ofNat (c.toNat + shift).toNat
  | none => c

/-- Whether the nearest character that is not passed over has a case. -/
def nearCased (text : List Char) : Bool := (text.find? fun c => !ignorable c).any cased

/-- A sigma ends a word if a cased character stands before it and none after. -/
def endsWord (before after : List Char) : Bool := nearCased before && !nearCased after

/-- The small letters of `text`, after `before` in reverse. -/
def lowercaseAfter (before : List Char) : List Char → List Char
  | [] => []
  | c :: rest =>
      let small :=
        if c = 'Σ' then [if endsWord before rest then 'ς' else 'σ']
        else if c = 'İ' then ['i', '\u0307']
        else [smallLetter c]
      small ++ lowercaseAfter (c :: before) rest

def lowercase (text : String) : String := String.ofList (lowercaseAfter [] text.toList)

end ChipEight.Text
