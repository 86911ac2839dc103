import ChipEight.Command.Library
import ChipEight.Text.Numeral

namespace ChipEight.Command

/-! A library with the usual grammar of a command line.

A long option has its value after an equals sign or in the next argument.  Short
ones may stand together in one argument, and the first that takes a value takes
the rest of it, or else the next argument.  Two dashes end the options; a single
dash is an operand.
-/

namespace Line

variable (switches : List Switch)

def findLong? (name : String) : Option Switch := switches.find? (·.long == name)

def findShort? (c : Char) : Option Switch := switches.find? (·.short == some c)

/-- What one argument holds: complete options, and perhaps one more that waits
for its value. -/
structure Group where
  complete : List (Switch × String)
  waiting : Option Switch

def readShort : List Char → Option Group
  | [] => some ⟨[], none⟩
  | c :: rest =>
      match findShort? switches c with
      | none => none
      | some switch =>
          if switch.takesValue then
            if rest = [] then some ⟨[], some switch⟩
            else some ⟨[(switch, String.ofList rest)], none⟩
          else
            (readShort rest).map fun group =>
              { group with complete := (switch, "") :: group.complete }

/-- The text before the first equals sign, and the text after it if there is one. -/
def splitValue (text : List Char) : List Char × Option (List Char) :=
  match text.dropWhile (· ≠ '=') with
  | [] => (text, none)
  | _ :: value => (text.takeWhile (· ≠ '='), some value)

/-- An argument that starts with a dash is tried as a long option first. -/
def readGroup (argument : List Char) : Option Group :=
  let (name, value) := splitValue argument
  match findLong? switches (String.ofList name) with
  | some switch =>
      match switch.takesValue, value with
      | true, some value => some ⟨[(switch, String.ofList value)], none⟩
      | true, none => some ⟨[], some switch⟩
      | false, some _ => none
      | false, none => some ⟨[(switch, "")], none⟩
  | none =>
      if argument.take 2 = ['-', '-'] then none
      else readShort switches (argument.drop 1)

/-- Reads all arguments; there is no line if one of them is no option, lacks its
value or has one too many. -/
def read : List String → Option Line
  | [] => some ⟨[], []⟩
  | argument :: rest =>
      if argument = "--" then some ⟨[], rest⟩
      else if argument.toList.head? = some '-' ∧ 1 < argument.length then
        match readGroup switches argument.toList with
        | none => none
        | some ⟨complete, none⟩ => (read rest).map (addOptions complete)
        | some ⟨complete, some waiting⟩ =>
            match rest with
            | [] => none
            | value :: rest =>
                (read rest).map (addOptions (complete ++ [(waiting, value)]))
      else (read rest).map (addOperand argument)

end Line

namespace PlainLibrary

/-- A count that is not below `least`. -/
def readCount (least : Int) (text : String) : Reading Int :=
  match Text.numeral? text.toList with
  | some count => if least ≤ count then .ok count else .error (.misuse none)
  | none => .error (.misuse none)

/-- A file that is there. -/
def readSource (directory : Directory) (text : String) : Reading Path := do
  if !Path.nameable text then throw .unnameable
  match directory.lookUp text with
  | some (.file _) => return Path.ofText text
  | _ => throw (.misuse none)

/-- A file that need not be there. -/
def readTarget (directory : Directory) (text : String) : Reading Path := do
  if !Path.nameable text then throw .unnameable
  match directory.lookUp text with
  | some .folder => throw (.misuse none)
  | _ => return Path.ofText text

def usage (switch : Switch) : String :=
  let short := match switch.short with
    | some c => s!"-{c}, "
    | none => ""
  s!"  {short}{switch.long}" ++ if switch.takesValue then " VALUE\n" else "\n"

def help (name summary : String) (switches : List Switch) : String :=
  s!"Usage: {name} [OPTIONS] FILE\n\n  {summary}\n\nOptions:\n" ++
    String.join (switches.map usage)

def version (name release : String) : String := s!"{name}, version {release}\n"

end PlainLibrary

open PlainLibrary in
def plainLibrary : Library where
  line? := Line.read
  count := readCount
  source := readSource
  target := readTarget
  help := help
  version := version

end ChipEight.Command
