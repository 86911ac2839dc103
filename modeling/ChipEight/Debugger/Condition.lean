import ChipEight.Machine
import ChipEight.Text.Lowercase

namespace ChipEight

/-! Conditions on the machine's registers. -/

open Text

/-- A number that a condition can look at. -/
inductive Watched where
  | register (x : Nibble)
  | index
  | pc
  | delay
  | sound
  | depth
deriving DecidableEq, Repr

namespace Watched

def name : Watched → String
  | .register x => "v" ++ String.ofList (Nat.toDigits 16 x.val)
  | .index => "i"
  | .pc => "pc"
  | .delay => "delay_timer"
  | .sound => "sound_timer"
  | .depth => "sp"

def all : List Watched :=
  [.index, .pc, .delay, .sound, .depth] ++ (List.finRange 16).map .register

/-- Reads a name in lower case. -/
def ofName? (name : String) : Option Watched := all.find? (·.name == name)

def value (machine : Machine) : Watched → Except Fault Int
  | .register x => do return (← machine.register x).toNat
  | .index => .ok machine.index
  | .pc => .ok machine.pc
  | .delay => .ok machine.delay
  | .sound => .ok machine.sound
  | .depth => .ok machine.depth

end Watched

inductive Comparison where
  | equal
  | different
  | less
  | atMost
  | greater
  | atLeast
  /-- Holds if the two numbers have a bit in common. -/
  | overlapping
deriving DecidableEq, Repr

namespace Comparison

def symbol : Comparison → String
  | .equal => "=="
  | .different => "!="
  | .less => "<"
  | .atMost => "<="
  | .greater => ">"
  | .atLeast => ">="
  | .overlapping => "&"

def all : List Comparison :=
  [.equal, .different, .less, .atMost, .greater, .atLeast, .overlapping]

def ofSymbol? (symbol : String) : Option Comparison := all.find? (·.symbol == symbol)

def holds (comparison : Comparison) (left right : Int) : Bool :=
  match comparison with
  | .equal => left == right
  | .different => left != right
  | .less => left < right
  | .atMost => left ≤ right
  | .greater => right < left
  | .atLeast => right ≤ left
  | .overlapping => Bits.inter left right != 0

end Comparison

structure Condition where
  watched : Watched
  comparison : Comparison
  value : Int
  description : String
deriving DecidableEq, Repr

namespace Condition

/-- Reads a condition, the register in any case.  Without a description it
describes itself. -/
def ofText (register operator : String) (value : Int) (description : String) :
    Except Fault Condition :=
  let name := lowercase register
  match Watched.ofName? name with
  | none => .error (.unknownRegister name)
  | some watched =>
      match Comparison.ofSymbol? operator with
      | none => .error (.unknownOperator operator)
      | some comparison =>
          let description :=
            if description = "" then s!"{name} {operator} {hexLiteral value}" else description
          .ok ⟨watched, comparison, value, description⟩

def holds (condition : Condition) (machine : Machine) : Except Fault Bool := do
  return condition.comparison.holds (← condition.watched.value machine) condition.value

def describe (condition : Condition) : String :=
  s!"RegisterCondition('{condition.watched.name}', '{condition.comparison.symbol}', " ++
    s!"{hexLiteral condition.value})"

end Condition

end ChipEight
