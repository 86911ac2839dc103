import ChipEight.Proofs.Loading
import ChipEight.Session

namespace ChipEight.Session

/-! A new session, and how a program gets into one. -/

variable {session after : Session} {program : List UInt8} {cyclesPerFrame : Int}

def font (loadsFont : Bool) : Option (List UInt8) := if loadsFont then some Font.glyphs else none

theorem length_font (loadsFont : Bool) (table : List UInt8) (same : font loadsFont = some table) :
    table.length = Font.size := by
  cases loadsFont <;> cases same
  exact Font.length_glyphs

theorem lettered_font (loadsFont : Bool) :
    (if loadsFont then Machine.initial.loadFont (some Font.glyphs) else .ok Machine.initial) =
      Machine.lettered (font loadsFont) := by
  cases loadsFont <;> rfl

theorem start_eq_ok {loadsFont : Bool} {machine : Machine} (positive : 1 ≤ cyclesPerFrame)
    (lettered : Machine.lettered (font loadsFont) = .ok machine) :
    start loadsFont cyclesPerFrame =
      .ok { loadsFont, cyclesPerFrame, machine, debugger := {}, total := 0, program := [] } := by
  rw [← lettered_font] at lettered
  rw [start, if_neg (Int.not_lt.2 positive)]
  cases loadsFont with
  | false =>
      cases lettered
      rfl
  | true =>
      simp only [if_true] at lettered
      simp only [if_true, lettered, ok_bind, pure_eq_ok]

theorem started_powered (loadsFont : Bool) (positive : 1 ≤ cyclesPerFrame)
    (room : program.length ≤ Machine.programRoom) :
    ∃ started fresh image, start loadsFont cyclesPerFrame = .ok started ∧
      started.loadProgram program = .ok fresh ∧ fresh.machine = Machine.powered image ∧
      image.size = Machine.memorySize ∧ fresh.total = 0 := by
  obtain ⟨image, run, size, -⟩ :=
    Machine.loaded_ok (font loadsFont) program (length_font loadsFont) room
  obtain ⟨machine, lettered, programmed⟩ := bind_eq_ok_iff.1 run
  let fresh : Session :=
    { loadsFont, cyclesPerFrame, machine := .powered image, debugger := {}, total := 0, program }
  refine ⟨_, fresh, image, start_eq_ok positive lettered, ?_, rfl, size, rfl⟩
  rw [loadProgram, programmed]
  rfl

theorem loadProgram_eq_ok (loaded : session.loadProgram program = .ok after) :
    ∃ machine, session.machine.loadProgram program = .ok machine ∧
      after = { session with machine, program } := by
  simp only [loadProgram, bind_eq_ok_iff] at loaded
  obtain ⟨machine, programmed, result⟩ := loaded
  cases result
  exact ⟨machine, programmed, rfl⟩

/-- The font, the program and the rest of a reset, one after the other. -/
theorem reset_eq_bind (session : Session) :
    session.reset =
      ((if session.loadsFont then session.machine.reset.loadFont (some Font.glyphs)
          else .ok session.machine.reset) >>= fun lettered =>
        (if session.program.isEmpty then .ok lettered else lettered.loadProgram session.program)
          >>= fun machine =>
            .ok { session with machine, total := 0, debugger := session.debugger.cancel }) := by
  simp only [reset]
  cases session.loadsFont <;> cases session.program.isEmpty <;> rfl

theorem loadFile_eq_ok {directory : Directory} {path : Path}
    (loaded : session.loadFile directory path = .ok after) :
    ∃ program, directory.read path = .ok program ∧ session.loadProgram program = .ok after := by
  simp only [loadFile, bind_eq_ok_iff] at loaded
  obtain ⟨found, -, rest⟩ := loaded
  split at rest
  · cases rest
  · exact bind_eq_ok_iff.1 rest

end ChipEight.Session
