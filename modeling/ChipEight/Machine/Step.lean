import ChipEight.Machine.Execute
import ChipEight.Outcome

namespace ChipEight

/-! One instruction at a time.

A step fetches the word at the program counter, checks that it can run to its
end, and only then changes the machine: it moves the program counter past the
word, executes it and ticks both timers.
-/

namespace Machine

variable (machine : Machine)

def peek : Except Fault Word :=
  if (machine.memory.size : Int) - 2 < machine.pc then .error (.fetchOutsideMemory machine.pc)
  else do
    let (high, low) ← machine.memory.readPair machine.pc
    return Word.ofBytes high low

/-- Refuses a word that cannot run to its end. -/
def vet (word : Word) : Except Fault Unit :=
  if ¬ word.supported then .error (.unknownOpcode word.toNat machine.pc)
  else if (word.toNat : Int) = Instruction.returnOpcode ∧ machine.stack = [] then
    .error (.emptyStack machine.pc)
  else if word.family.val = 0xD then do
    let visible := machine.visibleRows word.n.val (← machine.register word.y)
    if visible ≠ 0 ∧ (machine.memory.size : Int) < machine.index + visible then
      throw (.spriteOutsideMemory machine.index visible)
  else .ok ()

/-- The machine with a word fetched and not yet executed. -/
def fetched (word : Word) : Machine :=
  { machine with updated := false, opcode := word.toNat }.setPc (machine.pc + 2)

def tickTimer (value : Int) : Int := if 0 < value then (value - 1) % 0x100 else value

def tick : Machine :=
  { machine with delay := tickTimer machine.delay, sound := tickTimer machine.sound }

def step : Outcome Machine Unit :=
  match machine.peek with
  | .error fault => .error fault machine
  | .ok word =>
      match machine.vet word with
      | .error fault => .error fault machine
      | .ok () =>
          match (machine.fetched word).perform word.toNat with
          | .error fault => .error fault (machine.fetched word)
          | .ok after => .ok () after.tick

/-- Steps until `count` are done or one fails. -/
def steps : Nat → Machine → Outcome Machine Unit
  | 0, machine => .ok () machine
  | count + 1, machine =>
      match machine.step with
      | .error fault left => .error fault left
      | .ok () after => steps count after

end Machine

end ChipEight
