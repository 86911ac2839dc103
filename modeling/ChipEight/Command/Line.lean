namespace ChipEight.Command

/-! What a command line consists of. -/

structure Switch where
  long : String
  short : Option Char
  takesValue : Bool
deriving DecidableEq, Repr

/-- The options of a command line in order, and its operands. -/
structure Line where
  options : List (Switch × String)
  operands : List String
deriving DecidableEq, Repr

namespace Line

def addOptions (options : List (Switch × String)) (line : Line) : Line :=
  { line with options := options ++ line.options }

def addOperand (operand : String) (line : Line) : Line :=
  { line with operands := operand :: line.operands }

variable (line : Line)

def has (switch : Switch) : Bool := line.options.any (·.1 == switch)

/-- All values of an option, in order. -/
def values (switch : Switch) : List String :=
  (line.options.filter (·.1 == switch)).map (·.2)

/-- The last value of an option wins. -/
def value? (switch : Switch) : Option String := (line.values switch).getLast?

/-- The options in the order of their first occurrence. -/
def order : List Switch :=
  line.options.foldl (fun seen option =>
    if seen.contains option.1 then seen else seen ++ [option.1]) []

end Line

end ChipEight.Command
