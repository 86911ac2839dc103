namespace ChipEight.Bits

/-! Bits of unbounded integers in two's complement.

A negative number is the complement of the natural number `-[n+1]` carries, so
each case is one operation on natural numbers.
-/

/-- The bits of `kept` that are not in `removed`. -/
def without (kept removed : Nat) : Nat := kept ^^^ (kept &&& removed)

def union : Int → Int → Int
  | .ofNat left, .ofNat right => .ofNat (left ||| right)
  | .ofNat left, .negSucc right => .negSucc (without right left)
  | .negSucc left, .ofNat right => .negSucc (without left right)
  | .negSucc left, .negSucc right => .negSucc (left &&& right)

def inter : Int → Int → Int
  | .ofNat left, .ofNat right => .ofNat (left &&& right)
  | .ofNat left, .negSucc right => .ofNat (without left right)
  | .negSucc left, .ofNat right => .ofNat (without right left)
  | .negSucc left, .negSucc right => .negSucc (left ||| right)

/-- Bit `place`, counted from the lowest. -/
def bit (value : Int) (place : Nat) : Bool :=
  value.shiftRight place % 2 == 1

theorem bit_ofNat (n place : Nat) : bit n place = n.testBit place := by
  have shifted : Int.shiftRight n place = (n >>> place : Nat) := rfl
  rw [bit, shifted, Nat.testBit_eq_decide_div_mod_eq, ← Nat.shiftRight_eq_div_pow,
    Bool.eq_iff_iff]
  simp only [beq_iff_eq, decide_eq_true_eq]
  omega

def lowByte (value : Int) : UInt8 := UInt8.ofNat (value % 256).toNat

def lowWord (value : Int) : Int := value % 65536

end ChipEight.Bits
