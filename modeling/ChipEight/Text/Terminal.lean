namespace ChipEight.Text

/-! Texts without the sequences that control a terminal.

A control sequence is an escape, a bracket, parameters, and a letter that says what
to do with them.  What only starts like one is text like any other.
-/

def escape : Char := '\x1B'

/-- A character that may stand between the bracket and the letter. -/
def parameter (c : Char) : Bool := c.isDigit || c == ';' || c == '?'

/-- The text after a control sequence, if the text starts with one. -/
def afterControl? (text : List Char) : Option (List Char) :=
  match text with
  | first :: '[' :: rest =>
      match first == escape, rest.dropWhile parameter with
      | true, letter :: after => if letter.isAlpha then some after else none
      | _, _ => none
  | _ => none

theorem length_afterControl?_lt {text after : List Char} (found : afterControl? text = some after) :
    after.length < text.length := by
  unfold afterControl? at found
  split at found
  · next first rest =>
    split at found
    · next letter tail _ remaining =>
      have shorter : (rest.dropWhile parameter).length ≤ rest.length :=
        (List.dropWhile_suffix parameter).sublist.length_le
      rw [remaining] at shorter
      split at found
      · simp only [Option.some.injEq] at found
        subst found
        simp only [List.length_cons] at shorter ⊢
        omega
      · cases found
    · cases found
  · cases found

/-- Control sequences are left out in one pass.  What their neighbours then make up
is not looked at again. -/
def withoutControls (text : List Char) : List Char :=
  match text with
  | [] => []
  | c :: rest =>
      match _ : afterControl? (c :: rest) with
      | some after => withoutControls after
      | none => c :: withoutControls rest
termination_by text.length
decreasing_by
  · exact length_afterControl?_lt (by assumption)
  · simp

/-- A text without escapes is kept as it is. -/
theorem withoutControls_of_notMem {text : List Char} (plain : escape ∉ text) :
    withoutControls text = text := by
  induction text with
  | nil => simp [withoutControls]
  | cons c rest induction =>
      simp only [List.mem_cons, not_or] at plain
      have starts : afterControl? (c :: rest) = none := by
        unfold afterControl?
        split
        · next first tail same =>
          have other : (first == escape) = false := by
            simp only [List.cons.injEq] at same
            simp [← same.1, Ne.symm plain.1]
          simp [other]
        · rfl
      unfold withoutControls
      split
      · next found => simp [starts] at found
      · rw [induction plain.2]

/-- A text as it is shown where there may be no terminal. -/
def shown (text : String) : String := String.ofList (withoutControls text.toList)

end ChipEight.Text
