import ChipEight.Command.Library
import ChipEight.Command.Verdict

namespace ChipEight.Command

/-! What a command answers to its arguments. -/

inductive Response where
  /-- Arguments that do not make sense.  Some come with words of their own. -/
  | refused (message : Option String)
  | finished (verdict : Verdict) (stdout stderr : String) (directory : Directory)
deriving DecidableEq, Repr

def Refusal.response (refusal : Refusal) (directory : Directory) : Response :=
  match refusal with
  | .misuse message => .refused message
  | .unnameable => .finished .abandoned "" "" directory

def versionSwitch : Switch := ⟨"--version", none, false⟩

def helpSwitch : Switch := ⟨"--help", none, false⟩

/-- The one operand of a command. -/
def readOperand (line : Line) (read : String → Reading Path) : Reading Path :=
  match line.operands with
  | [] => .error (.misuse none)
  | operand :: others => do
      let path ← read operand
      if others.isEmpty then return path else throw (.misuse none)

/-- Applies `read` to the value of an option, if it is given. -/
def optional {α : Type} (line : Line) (switch : Switch) (read : String → Reading α) :
    Reading (Option α) :=
  match line.value? switch with
  | some text => do return some (← read text)
  | none => .ok none

/-- A command: its name, what it is for, its options, those of them that name files,
and what it does with a line that asks for work. -/
structure Tool where
  name : String
  summary : String
  switches : List Switch
  fileSwitches : List Switch
  work : Library → Line → Directory → Response

def release : String := "1.0.0"

namespace Tool

variable (tool : Tool) (library : Library)

def allSwitches : List Switch := tool.switches ++ [versionSwitch, helpSwitch]

/-- Answers what asks for no work, and lets the command work otherwise.  Of the two
options that ask for none, the first one counts. -/
def answer (arguments : List String) (directory : Directory) : Response :=
  match library.line? tool.allSwitches arguments with
  | none => .refused none
  | some line =>
      match line.order.find? fun switch => switch == versionSwitch || switch == helpSwitch with
      | some switch =>
          let text :=
            if switch = versionSwitch then library.version tool.name release
            else library.help tool.name tool.summary tool.allSwitches
          .finished .success text "" directory
      | none => tool.work library line directory

/-- The texts on a line that name files. -/
def fileTexts (arguments : List String) : List String :=
  match library.line? tool.allSwitches arguments with
  | none => []
  | some line => line.operands ++ tool.fileSwitches.flatMap line.values

end Tool

end ChipEight.Command
