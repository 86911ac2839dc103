import ChipEight.Screen.Packed
import ChipEight.Screen.Sprite

namespace ChipEight.Screen

/-! The ways to change a picture. -/

inductive Change where
  | write (x y : Int) (lit : Bool)
  | draw (x y : Int) (sprite : List UInt8)
  | clear
  | restore (data : List Int) (offset : Int)
deriving DecidableEq, Repr

/-- The picture that is left, whether the change is made or fails on the way. -/
def change (screen : Screen) : Change → Screen
  | .write x y lit => Outcome.settle screen (screen.write x y lit)
  | .draw x y sprite => Outcome.settle screen ((screen.draw x y sprite).map (·.2))
  | .clear => screen.clear
  | .restore data offset => (screen.restore data offset).state

end ChipEight.Screen
