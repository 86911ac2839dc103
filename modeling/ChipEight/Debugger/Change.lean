import ChipEight.Debugger

namespace ChipEight.Debugger

/-! Changes a host makes to what a run stops at. -/

inductive Change where
  | addAddress (address : Int)
  | removeAddress (address : Int)
  | clearAddresses
  | addOpcode (opcode : Int)
  | removeOpcode (opcode : Int)
  | addCondition (register operator : String) (value : Int) (description : String)
  | removeCondition (number : Int)
  | clearConditions
  | setStepMode (value : Bool)
  | request
  | cancel
  | clear
deriving DecidableEq, Repr

/-- Only a condition can be refused, for its register or its operator. -/
def change (debugger : Debugger) : Change → Except Fault Debugger
  | .addAddress address => .ok (debugger.addAddress address)
  | .removeAddress address => .ok (debugger.removeAddress address)
  | .clearAddresses => .ok debugger.clearAddresses
  | .addOpcode opcode => .ok (debugger.addOpcode opcode)
  | .removeOpcode opcode => .ok (debugger.removeOpcode opcode)
  | .addCondition register operator value description => do
      let condition ← Condition.ofText register operator value description
      return (debugger.addCondition condition).2
  | .removeCondition number => .ok (debugger.removeCondition number)
  | .clearConditions => .ok debugger.clearConditions
  | .setStepMode value => .ok (debugger.setStepMode value)
  | .request => .ok debugger.request
  | .cancel => .ok debugger.cancel
  | .clear => .ok debugger.clear

end ChipEight.Debugger
