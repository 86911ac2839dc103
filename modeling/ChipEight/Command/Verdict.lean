import ChipEight.Fault
import ChipEight.Text.Terminal

namespace ChipEight

/-! How a command ends on a fault. -/

inductive Verdict where
  | success
  /-- The machine rejected the program. -/
  | rejected
  /-- The arguments or the files they name do not serve. -/
  | misused
  | failed
  /-- The command gave up over its arguments, without a word. -/
  | abandoned
deriving DecidableEq, Repr

def Verdict.code : Verdict → Nat
  | .success => 0
  | .rejected => 1
  | .misused => 2
  | .failed => 3
  | .abandoned => 1

def FaultKind.verdict : FaultKind → Verdict
  | .machine | .argument | .bounds | .emptyStack | .unknownOpcode => .rejected
  | .parameter | .missingFile | .permission => .misused
  | _ => .failed

namespace Command

/-- What a complaint starts with.  Only what the machine rejects is named after the
`activity`, if that has a name. -/
def complaintLabel (verdict : Verdict) (activity : String) : String :=
  match verdict with
  | .rejected => if activity = "" then "Error" else s!"{activity} error"
  | .failed => "Internal error"
  | _ => "Error"

/-- The line a command writes about a fault. -/
def complaint (kind : FaultKind) (message activity : String) : String :=
  Text.shown s!"{complaintLabel kind.verdict activity}: {message}\n"

end Command

end ChipEight
