import ChipEight.Fault

namespace ChipEight

/-! Actions that change a state and may fail on the way.

Such an action leaves a value and the state after it, or a fault and the state in
which it was found.  What has been written before a fault stays written.
-/

abbrev Outcome (State Value : Type) := EStateM.Result Fault State Value

namespace Outcome

variable {State Value : Type}

/-- The state an action leaves, however it ends. -/
def state : Outcome State Value → State
  | .ok _ after => after
  | .error _ left => left

/-- The state after a change that is made as a whole or not at all. -/
def settle (before : State) : Except Fault State → State
  | .ok after => after
  | .error _ => before

theorem settle_of {P : State → Prop} {before : State} {result : Except Fault State}
    (kept : P before) (made : ∀ after, result = .ok after → P after) : P (settle before result) := by
  cases result with
  | ok after => exact made after rfl
  | error fault => exact kept

end Outcome

end ChipEight
