import ChipEight.Proofs.Layout
import ChipEight.Proofs.Loading
import ChipEight.Session

namespace ChipEight

/-! Taking a snapshot and restoring it, on any machine and from any place in a row.

What comes back is the machine as it was, but for the mark that the screen was just
updated.  No instruction reads that mark and every one that is begun sets it anew, so
the two machines cannot be told apart by running them.
-/

namespace Outcome

variable {State Value : Type}

/-- How an action ends, without the state it leaves. -/
def ending : Outcome State Value → Except Fault Value
  | .ok value _ => .ok value
  | .error fault _ => .error fault

end Outcome

namespace Machine

variable {machine target : Machine}

/-- A machine that a snapshot can hold: also its opcode and the entries of its stack
are words, and the depth of the stack is a byte. -/
structure Storable (machine : Machine) : Prop where
  formed : machine.WellFormed
  opcode : 0 ≤ machine.opcode ∧ machine.opcode < 0x10000
  entries : ∀ entry ∈ machine.stack, 0 ≤ entry ∧ entry < 0x10000
  depth : machine.depth ≤ 0xFF

def unmarked (machine : Machine) : Machine := { machine with updated := false }

theorem length_highLow (entries : List Int) :
    (entries.flatMap highLow).length = 2 * entries.length := by
  induction entries with
  | nil => rfl
  | cons entry rest induction =>
      simp only [List.flatMap_cons, List.length_append, induction, List.length_cons, highLow,
        List.length_nil]
      omega

def Storable.layout (storable : machine.Storable) : Layout where
  pc := (machine.pc / 0x100 % 0x100, machine.pc % 0x100)
  index := (machine.index / 0x100 % 0x100, machine.index % 0x100)
  opcode := (machine.opcode / 0x100 % 0x100, machine.opcode % 0x100)
  delay := machine.delay
  sound := machine.sound
  registers := machine.registers
  count := storable.formed.registers
  depth := machine.depth
  frames := machine.stack.reverse.flatMap highLow
  memory := machine.memory.toList
  picture := machine.screen.snapshot
  framed := by rw [length_highLow, List.length_reverse, Machine.depth]
  filled := storable.formed.memory
  shown := storable.formed.sized.screen.length_snapshot

theorem Storable.snapshot_eq (storable : machine.Storable) :
    machine.snapshot = .ok storable.layout.row := by
  rw [snapshot, if_neg (Nat.not_lt.2 storable.depth)]
  simp [Layout.row, Front.row, Front.scalars, layout, highLow, Memory.snapshot, numbers]

theorem Storable.restored_layout (storable : machine.Storable) (sized : target.Sized) :
    storable.layout.restored target = machine.unmarked := by
  have formed := storable.formed
  have entries (entry : Int) (member : entry ∈ machine.stack.reverse) :
      0 ≤ entry ∧ entry < 0x10000 := storable.entries entry (List.mem_reverse.1 member)
  have screen := sized.screen.filled_snapshot formed.sized.screen
  simp only [Layout.restored, layout, paired_highLow formed.pc, paired_highLow formed.index,
    paired_highLow storable.opcode, pairs_highLow entries, List.reverse_reverse, screen]
  rfl

/-- How so many steps end, and the state they leave.  A step that fails does not keep the
next one from being tried. -/
def attempts : Nat → Machine → List (Except Fault Unit) × Machine
  | 0, machine => ([], machine)
  | count + 1, machine =>
      let (endings, last) := attempts count machine.step.state
      (machine.step.ending :: endings, last)

theorem step_unmarked (machine : Machine) :
    (∃ after, machine.step = .ok () after ∧ machine.unmarked.step = .ok () after) ∨
      ∃ fault left, machine.step = .error fault left ∧
        machine.unmarked.step = .error fault left.unmarked := by
  have peek : machine.unmarked.peek = machine.peek := rfl
  have vet (word : Word) : machine.unmarked.vet word = machine.vet word := rfl
  have fetched (word : Word) : machine.unmarked.fetched word = machine.fetched word := rfl
  simp only [step, peek, vet, fetched]
  cases machine.peek with
  | error fault => exact .inr ⟨fault, machine, rfl, rfl⟩
  | ok word =>
      cases checked : machine.vet word with
      | error fault => exact .inr ⟨fault, machine, by simp [checked], by simp [checked]⟩
      | ok =>
          cases executed : (machine.fetched word).perform word.toNat with
          | error fault =>
              exact .inr ⟨fault, machine.fetched word, by simp [checked, executed],
                by simp [checked, executed]; rfl⟩
          | ok after => exact .inl ⟨after.tick, by simp [checked, executed]⟩

theorem attempts_unmarked (count : Nat) (machine : Machine) :
    (attempts count machine.unmarked).1 = (attempts count machine).1 ∧
      (.ok () ∈ (attempts count machine).1 →
        (attempts count machine.unmarked).2 = (attempts count machine).2) := by
  induction count generalizing machine with
  | zero => exact ⟨rfl, fun completed => absurd completed (List.not_mem_nil)⟩
  | succ count induction =>
      rcases machine.step_unmarked with ⟨after, marked, unmarked⟩ | ⟨fault, left, marked, unmarked⟩
      · simp only [attempts, marked, unmarked, implies_true, and_self]
      · obtain ⟨endings, last⟩ := induction left
        simp only [attempts, marked, unmarked, Outcome.state, Outcome.ending, endings,
          true_and, List.mem_cons, reduceCtorEq, false_or]
        exact last

/-- A machine is restored from its snapshot, whatever stands around the snapshot and whatever
machine it is restored in, and from then on it does what the machine would have done.  Only the note
of a changed screen is not stored.  A stack that is too deep to be counted in a byte has no snapshot,
and nothing is saved of it. -/
theorem snapshot_round_trip :
    (∀ machine : Machine, machine.Storable →
      ∃ taken, machine.snapshot = .ok taken ∧
        ∀ (before after : List Int) (target : Machine), target.Sized →
          ∃ restored,
            target.restore (before ++ (taken ++ after)) before.length =
              .ok taken.length restored ∧
            restored = { machine with updated := false } ∧
            ∀ count,
              (attempts count restored).1 = (attempts count machine).1 ∧
                (.ok () ∈ (attempts count machine).1 →
                  (attempts count restored).2 = (attempts count machine).2)) ∧
    ∀ machine : Machine, 0xFF < machine.depth →
      machine.snapshot = .error (.stackTooDeep machine.depth) ∧
        (Fault.stackTooDeep machine.depth).kind = .value ∧
        ∀ (session : Session) (directory : Directory) (path : Path), session.machine = machine →
          session.save directory path = .error (.stackTooDeep machine.depth) := by
  refine ⟨fun machine storable => ?_, fun machine deep => ?_⟩
  · refine ⟨storable.layout.row, storable.snapshot_eq, fun before after target sized => ?_⟩
    refine ⟨machine.unmarked, ?_, rfl, fun count => attempts_unmarked count machine⟩
    rw [sized.restore_layout, storable.restored_layout sized]
  · have refused : machine.snapshot = .error (.stackTooDeep machine.depth) := by
      rw [snapshot, if_pos deep]
    refine ⟨refused, rfl, fun session directory path same => ?_⟩
    rw [Session.save, same, refused]
    rfl

theorem call_round_trip :
    (initial.push 0x202).Storable ∧ initial.Sized ∧
      (∃ taken, (initial.push 0x202).snapshot = .ok taken ∧
        initial.restore ([7] ++ (taken ++ [9])) 1 = .ok taken.length (initial.push 0x202)) ∧
      ∃ deep : Machine, deep.depth = 256 ∧ deep.snapshot = .error (.stackTooDeep 256) := by
  have formed : (initial.push 0x202).WellFormed := { initial_wellFormed with }
  have storable : (initial.push 0x202).Storable :=
    { formed := formed
      opcode := by decide
      entries := by simp [push, initial]
      depth := by decide }
  have sized : initial.Sized := initial_wellFormed.sized
  obtain ⟨taken, took, restores⟩ := snapshot_round_trip.1 _ storable
  obtain ⟨restored, run, rfl, -⟩ := restores [7] [9] initial sized
  obtain ⟨deep, depth⟩ : ∃ deep : Machine, deep.depth = 256 :=
    ⟨{ initial with stack := List.replicate 256 0 }, List.length_replicate⟩
  have refused := (snapshot_round_trip.2 deep (by rw [depth]; decide)).1
  rw [depth] at refused
  exact ⟨storable, sized, ⟨taken, took, run⟩, deep, depth, refused⟩

end Machine

end ChipEight
