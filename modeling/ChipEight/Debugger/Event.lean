import ChipEight.Text.Number

namespace ChipEight

/-! Why a run stopped. -/

inductive Reason where
  | unspecified
  | address
  | opcode
  | condition
  | step
  | interrupt
  | budget
deriving DecidableEq, Repr

structure Event where
  reason : Reason
  address : Option Int
  opcode : Option Int
  message : String
deriving DecidableEq, Repr

open Text

/-- The message, or else what the reason alone tells. -/
def Event.text (event : Event) : String :=
  if event.message ≠ "" then event.message
  else
    match event.reason with
    | .address =>
        match event.address with
        | some address => "Breakpoint at " ++ dollar address
        | none => "Breakpoint"
    | .opcode =>
        match event.opcode with
        | some opcode => "Opcode " ++ dollar opcode
        | none => "Opcode breakpoint"
    | .condition => "Register condition met"
    | .step => "Single step"
    | .interrupt => "User interrupt"
    | .budget => "Maximum steps reached"
    | .unspecified => "Unknown"

end ChipEight
