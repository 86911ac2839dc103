import ChipEight.Command.PlainLibrary
import ChipEight.Proofs.Result
import Mathlib.Data.List.TakeWhile

namespace ChipEight.Command

/-! What commands rely on in the library that takes their arguments apart.

Of all the spellings of a line only the plainest are counted on: every option stands in an
argument of its own, its value in the next one, and the operands between or behind them.  The
plain library reads these, and more.
-/

/-- The names that a switch goes by. -/
inductive Switch.Named (switch : Switch) : String → Prop where
  | long : Named switch switch.long
  | short {c : Char} (letter : switch.short = some c) : Named switch (String.ofList ['-', c])

/-- Two dashes start a long name, and a short one has a single dash. -/
structure Switch.Formed (switch : Switch) : Prop where
  dashes : ['-', '-'] <+: switch.long.toList
  named : 2 < switch.long.toList.length
  whole : '=' ∉ switch.long.toList
  letter : switch.short ≠ some '-'

/-- Switches that their names tell apart. -/
structure WellNamed (switches : List Switch) : Prop where
  formed : ∀ switch ∈ switches, switch.Formed
  long : ∀ switch ∈ switches, ∀ other ∈ switches, other.long = switch.long → other = switch
  short : ∀ switch ∈ switches, ∀ other ∈ switches, other.short = switch.short →
    switch.short = none ∨ other = switch

instance (switch : Switch) : Decidable switch.Formed :=
  decidable_of_iff (['-', '-'] <+: switch.long.toList ∧ 2 < switch.long.toList.length ∧
      '=' ∉ switch.long.toList ∧ switch.short ≠ some '-')
    ⟨fun ⟨dashes, named, whole, letter⟩ => ⟨dashes, named, whole, letter⟩,
      fun formed => ⟨formed.dashes, formed.named, formed.whole, formed.letter⟩⟩

instance (switches : List Switch) : Decidable (WellNamed switches) :=
  decidable_of_iff ((∀ switch ∈ switches, switch.Formed) ∧
      (∀ switch ∈ switches, ∀ other ∈ switches, other.long = switch.long → other = switch) ∧
      ∀ switch ∈ switches, ∀ other ∈ switches, other.short = switch.short →
        switch.short = none ∨ other = switch)
    ⟨fun ⟨formed, long, short⟩ => ⟨formed, long, short⟩,
      fun named => ⟨named.formed, named.long, named.short⟩⟩

/-- Arguments that spell a line. -/
inductive Spelled (switches : List Switch) : List String → Line → Prop where
  | nothing : Spelled switches [] ⟨[], []⟩
  | flag {switch : Switch} {name : String} {rest : List String} {line : Line}
      (known : switch ∈ switches) (named : switch.Named name) (bare : switch.takesValue = false)
      (after : Spelled switches rest line) :
      Spelled switches (name :: rest) (line.addOptions [(switch, "")])
  | valued {switch : Switch} {name value : String} {rest : List String} {line : Line}
      (known : switch ∈ switches) (named : switch.Named name) (takes : switch.takesValue = true)
      (after : Spelled switches rest line) :
      Spelled switches (name :: value :: rest) (line.addOptions [(switch, value)])
  | operand {text : String} {rest : List String} {line : Line}
      (dashless : text.toList.head? ≠ some '-') (after : Spelled switches rest line) :
      Spelled switches (text :: rest) (line.addOperand text)
  | operands (texts : List String) : Spelled switches ("--" :: texts) ⟨[], texts⟩

/-- What a library is relied on for: the line that arguments spell, counts that are high enough
and files that are there. -/
structure Library.Reads (library : Library) : Prop where
  line : ∀ {switches : List Switch} {arguments : List String} {line : Line}, WellNamed switches →
    Spelled switches arguments line → library.line? switches arguments = some line
  count : ∀ {least count : Int} {text : String}, Text.numeral? text.toList = some count →
    least ≤ count → library.count least text = .ok count
  source : ∀ {directory : Directory} {text : String} {contents : Contents},
    Path.nameable text = true → directory.lookUp text = some (.file contents) →
      library.source directory text = .ok (Path.ofText text)

namespace Line

variable {switches : List Switch} {switch : Switch} {name : String} {c : Char}

theorem find?_of_unique {wanted : Switch → Bool} (known : switch ∈ switches)
    (found : wanted switch = true) (unique : ∀ other ∈ switches, wanted other → other = switch) :
    switches.find? wanted = some switch := by
  cases result : switches.find? wanted with
  | none => exact absurd found (List.find?_eq_none.1 result switch known)
  | some other =>
      rw [unique other (List.mem_of_find?_eq_some result) (List.find?_some result)]

theorem findLong?_of_mem (named : WellNamed switches) (known : switch ∈ switches) :
    findLong? switches switch.long = some switch :=
  find?_of_unique known (beq_self_eq_true _) fun other member same =>
    named.long switch known other member (beq_iff_eq.1 same)

theorem findShort?_of_mem (named : WellNamed switches) (known : switch ∈ switches)
    (letter : switch.short = some c) : findShort? switches c = some switch := by
  refine find?_of_unique known (beq_iff_eq.2 letter) fun other member same => ?_
  rcases named.short switch known other member ((beq_iff_eq.1 same).trans letter.symm) with
    none | same
  · cases none.symm.trans letter
  · exact same

theorem findLong?_of_short (named : WellNamed switches) {text : List Char}
    (short : text.length ≤ 2) : findLong? switches (String.ofList text) = none := by
  rw [findLong?, List.find?_eq_none]
  intro other member same
  have long := (named.formed other member).named
  rw [beq_iff_eq.1 same, String.toList_ofList] at long
  omega

theorem splitValue_of_notMem {text : List Char} (whole : '=' ∉ text) :
    splitValue text = (text, none) := by
  have all : text.dropWhile (· ≠ '=') = [] := by
    rw [List.dropWhile_eq_nil_iff]
    intro c member
    exact decide_eq_true fun same => whole (same ▸ member)
  rw [splitValue, all]

/-- What an argument holds that is nothing but the name of a switch. -/
def named (switch : Switch) : Group :=
  if switch.takesValue then ⟨[], some switch⟩ else ⟨[(switch, "")], none⟩

theorem readGroup_long (wellNamed : WellNamed switches) (known : switch ∈ switches) :
    readGroup switches switch.long.toList = some (named switch) := by
  have split := splitValue_of_notMem (wellNamed.formed switch known).whole
  have found : findLong? switches (String.ofList switch.long.toList) = some switch := by
    rw [String.ofList_toList]
    exact findLong?_of_mem wellNamed known
  simp only [readGroup, split, found, named]
  cases switch.takesValue <;> rfl

theorem readGroup_short (wellNamed : WellNamed switches) (known : switch ∈ switches)
    (letter : switch.short = some c) : readGroup switches ['-', c] = some (named switch) := by
  have noLong : findLong? switches (String.ofList (splitValue ['-', c]).1) = none := by
    apply findLong?_of_short wellNamed
    by_cases equals : c = '='
    · rw [equals]
      decide
    · rw [splitValue_of_notMem (by simp [Ne.symm equals])]
      exact Nat.le_refl 2
  have single : c ≠ '-' := by
    rintro rfl
    exact (wellNamed.formed switch known).letter letter
  have double : List.take 2 ['-', c] ≠ ['-', '-'] := by simp [single]
  have found := findShort?_of_mem wellNamed known letter
  simp only [readGroup, noLong, if_neg double, List.drop_one, List.tail_cons, readShort, found,
    named]
  cases switch.takesValue <;> rfl

/-- A name is neither an operand nor the end of the options. -/
theorem readGroup_named (wellNamed : WellNamed switches) (known : switch ∈ switches)
    (goes : switch.Named name) :
    name ≠ "--" ∧ (name.toList.head? = some '-' ∧ 1 < name.length) ∧
      readGroup switches name.toList = some (named switch) := by
  have formed := wellNamed.formed switch known
  rw [← String.length_toList]
  cases goes with
  | long =>
      obtain ⟨behind, spelled⟩ := formed.dashes
      have long := formed.named
      refine ⟨?_, ⟨?_, by omega⟩, readGroup_long wellNamed known⟩
      · intro same
        rw [same] at long
        exact absurd long (by decide)
      · rw [← spelled]
        rfl
  | short letter =>
      rw [String.toList_ofList]
      refine ⟨?_, ⟨rfl, Nat.le_refl 2⟩, readGroup_short wellNamed known letter⟩
      intro same
      have letters := congrArg String.toList same
      rw [String.toList_ofList] at letters
      cases letters
      exact formed.letter letter

theorem read_of_spelled {arguments : List String} {line : Line} (wellNamed : WellNamed switches)
    (spelled : Spelled switches arguments line) : read switches arguments = some line := by
  induction spelled with
  | nothing => rfl
  | flag known goes bare after induction =>
      obtain ⟨inside, dashed, group⟩ := readGroup_named wellNamed known goes
      rw [read, if_neg inside, if_pos dashed, group]
      simp only [named, bare, induction, Bool.false_eq_true, if_false, Option.map_some]
  | valued known goes takes after induction =>
      obtain ⟨inside, dashed, group⟩ := readGroup_named wellNamed known goes
      rw [read, if_neg inside, if_pos dashed, group]
      simp only [named, takes, induction, if_true, Option.map_some, List.nil_append]
  | @operand text rest line dashless after induction =>
      have inside : text ≠ "--" := by
        rintro rfl
        exact dashless rfl
      rw [read, if_neg inside, if_neg fun dashed => dashless dashed.1, induction]
      rfl
  | operands texts => rw [read, if_pos rfl]

/-- One of the switches, with a value only if it takes one. -/
def Plain (switches : List Switch) (option : Switch × String) : Prop :=
  option.1 ∈ switches ∧ (option.1.takesValue = false → option.2 = "")

/-- The plainest arguments for a line. -/
def arguments (line : Line) : List String :=
  line.options.flatMap (fun (switch, value) =>
    if switch.takesValue then [switch.long, value] else [switch.long]) ++ "--" :: line.operands

theorem spelled_arguments {line : Line} (plain : ∀ option ∈ line.options, Plain switches option) :
    Spelled switches line.arguments line := by
  -- The induction is on the options; the operands stay behind the two dashes.
  obtain ⟨options, operands⟩ := line
  induction options with
  | nil => exact .operands operands
  | cons option rest induction =>
      obtain ⟨switch, value⟩ := option
      obtain ⟨⟨here, bare⟩, others⟩ := List.forall_mem_cons.1 plain
      cases takes : switch.takesValue with
      | false =>
          cases bare takes
          have spelled := Spelled.flag here .long takes (induction others)
          simpa [arguments, addOptions, takes] using spelled
      | true =>
          have spelled := @Spelled.valued _ _ _ value _ _ here .long takes (induction others)
          simpa [arguments, addOptions, takes] using spelled

end Line

/-- The plain library is one that commands can rely on. -/
theorem plainLibrary_reads : plainLibrary.Reads where
  line := Line.read_of_spelled
  count := by
    intro least count text numeral enough
    simp only [plainLibrary, PlainLibrary.readCount, numeral, if_pos enough]
  source := by
    intro directory text contents nameable found
    simp only [plainLibrary, PlainLibrary.readSource, nameable, found]
    rfl

end ChipEight.Command
