import ChipEight.Bits

namespace ChipEight

/-! Instruction words.

A word is sixteen bits, read as four nibbles `F X Y N`; the last two are also
the byte `NN`, and the last three the target `NNN`.
-/

abbrev Nibble := Fin 16

abbrev Target := Fin 0x1000

structure Word where
  toNat : Nat
  toNat_lt : toNat < 0x10000
deriving DecidableEq, Repr

namespace Word

/-- The low sixteen bits of a number. -/
def ofInt (value : Int) : Word := ⟨(value % 0x10000).toNat, by omega⟩

def ofBytes (high low : UInt8) : Word :=
  ⟨high.toNat * 256 + low.toNat, by
    have := high.toNat_lt
    have := low.toNat_lt
    omega⟩

def family (word : Word) : Nibble := ⟨word.toNat / 0x1000, by have := word.toNat_lt; omega⟩

def x (word : Word) : Nibble := ⟨word.toNat / 0x100 % 16, by omega⟩

def y (word : Word) : Nibble := ⟨word.toNat / 0x10 % 16, by omega⟩

def n (word : Word) : Nibble := ⟨word.toNat % 16, by omega⟩

def nn (word : Word) : UInt8 := UInt8.ofNat (word.toNat % 0x100)

def nnn (word : Word) : Target := ⟨word.toNat % 0x1000, by omega⟩

theorem fields (word : Word) :
    word.toNat = word.family * 0x1000 + word.x * 0x100 + word.y * 0x10 + word.n := by
  simp only [family, x, y, n]
  omega

@[simp] theorem ofInt_toNat (word : Word) : ofInt word.toNat = word := by
  obtain ⟨value, bound⟩ := word
  simp only [ofInt, mk.injEq]
  omega

end Word

end ChipEight
