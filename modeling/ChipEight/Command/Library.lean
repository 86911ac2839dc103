import ChipEight.Command.Line
import ChipEight.Directory

namespace ChipEight.Command

/-! What a command leaves to a library for command lines.

How arguments are taken apart, how values are read and what is said about a command to those who
ask for help is the library's own business.
-/

/-- Why a command does not take up its arguments. -/
inductive Refusal where
  /-- They do not make sense, in words of their own or not. -/
  | misuse (message : Option String)
  /-- One of them stands for a file and cannot be the name of any. -/
  | unnameable
deriving DecidableEq, Repr

/-- Arguments as a command wants them, or else why it refuses them. -/
abbrev Reading (α : Type) := Except Refusal α

structure Library where
  /-- The line that arguments spell, if they spell one with these switches. -/
  line? : List Switch → List String → Option Line
  /-- A count that is not below a bound. -/
  count : Int → String → Reading Int
  /-- A file that is there. -/
  source : Directory → String → Reading Path
  /-- A file that need not be there. -/
  target : Directory → String → Reading Path
  /-- What is written about a command with this name, this summary and these switches. -/
  help : (name summary : String) → List Switch → String
  /-- What is written about the version of a command. -/
  version : (name release : String) → String

end ChipEight.Command
