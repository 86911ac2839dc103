import ChipEight.Proofs.Calls
import ChipEight.Proofs.Shape
import ChipEight.Proofs.Starting
import ChipEight.Session.Action

namespace ChipEight

/-! What a reset brings back.

Memory and picture keep their sizes whatever is done to them, so clearing them gives the ones a
machine starts with.  Apart from that a reset needs the font setting, which is never written, and
the program that was loaded last, which the session remembers.
-/

theorem Memory.load_nil {memory : Memory} {address : Nat} (inside : address ≤ memory.size) :
    memory.load address [] = .ok memory := by
  have covered : memory.covers address 0 = .ok () :=
    (memory.covers_eq_ok_iff ..).2 ⟨Int.natCast_nonneg address, by omega⟩
  have whole : memory.bytes.extract 0 address ++ memory.bytes.extract address memory.size =
      memory.bytes := by
    rw [Array.extract_append_extract, Nat.min_eq_left (Nat.zero_le _), Nat.max_eq_right inside]
    exact Array.extract_size
  simp only [load, List.length_nil, Int.natCast_zero, covered, ok_bind, pure_eq_ok, Int.toNat_natCast,
    Nat.add_zero, Array.append_empty, whole]

namespace Machine

variable {machine : Machine} {memory : Memory}

theorem Sized.reset_eq (sized : machine.Sized) : machine.reset = initial := by
  have cleared : machine.memory.clear = initial.memory := by
    rw [Memory.clear, sized.memory]
    rfl
  have blank : machine.screen.clear = initial.screen := by
    have rows : machine.screen.rows.map (fun row => row.map fun _ => false) =
        List.replicate 32 (List.replicate 64 false) := by
      have each (row : List Bool) (member : row ∈ machine.screen.rows) :
          row.map (fun _ => false) = List.replicate 64 false := by
        rw [List.map_const', sized.screen.columns row member]
      rw [List.map_congr_left each, List.map_const', sized.screen.rows]
    simp only [Screen.clear, rows, sized.screen.width, sized.screen.height]
    rfl
  rw [Machine.reset, cleared, blank]

theorem powered_loadProgram_nil (size : memory.size = memorySize) :
    (powered memory).loadProgram [] = .ok (powered memory) := by
  have inside : programStart ≤ (powered memory).memory.size := by
    change 0x200 ≤ memory.size
    rw [size]
    decide
  have stored : (powered memory).store programStart [] = .ok (powered memory) := by
    rw [store, Memory.load_nil inside]
    rfl
  rw [loadProgram, if_neg (by decide), stored]
  rfl

end Machine

namespace Session

variable {session after origin : Session} {loadsFont : Bool} {image : Option (List UInt8)}

/-- A session that has all a reset needs: the font setting, and the last program. -/
structure Tracks (loadsFont : Bool) (image : Option (List UInt8)) (session : Session) : Prop where
  sized : session.machine.Sized
  font : session.loadsFont = loadsFont
  program : session.program = image.getD []
  room : session.program.length ≤ Machine.programRoom

namespace Tracks

theorem invariant : Invariant (Tracks loadsFont image) where
  debugger := fun session debugger tracks => { tracks with }
  advance := by
    intro session tracks
    have stepped := tracks.sized.step
    simp only [advance]
    cases result : session.machine.step <;> rw [result] at stepped <;>
      exact { tracks with sized := stepped }

theorem loadProgram {program : List UInt8} (tracks : session.Tracks loadsFont image)
    (loaded : session.loadProgram program = .ok after) : after.Tracks loadsFont (some program) := by
  obtain ⟨machine, programmed, rfl⟩ := loadProgram_eq_ok loaded
  exact
    { sized := tracks.sized.loadProgram programmed
      font := tracks.font
      program := rfl
      room := (Machine.loadProgram_eq_ok programmed).1 }

theorem restore (tracks : session.Tracks loadsFont image) (directory : Directory) (path : Path) :
    (session.restore directory path).state.Tracks loadsFont image := by
  simp only [Session.restore]
  cases readSnapshot directory path with
  | error fault => exact tracks
  | ok data =>
      have sized := tracks.sized.restore_state data signature.length
      simp only
      cases restored : session.machine.restore data signature.length <;> rw [restored] at sized <;>
        exact { tracks with sized := sized }

/-- A reset does not fail, and what it loads onto a fresh machine is the last program.  Where
there was none, that is the empty one. -/
theorem reset_eq (tracks : session.Tracks loadsFont image) :
    ∃ memory, Machine.loaded (Session.font loadsFont) (image.getD []) = .ok (.powered memory) ∧
      memory.size = Machine.memorySize ∧
      session.reset = .ok { session with
        machine := .powered memory
        total := 0
        debugger := session.debugger.cancel } := by
  have glyphs := length_font loadsFont
  obtain ⟨blank, lettered, blankSize, -⟩ := Machine.lettered_ok glyphs
  obtain ⟨memory, loaded, size, -⟩ := Machine.loaded_ok _ _ glyphs (tracks.program ▸ tracks.room)
  refine ⟨memory, loaded, size, ?_⟩
  simp only [Machine.loaded, lettered, ok_bind, ← tracks.program] at loaded
  have programmed :
      (if session.program.isEmpty then .ok (Machine.powered blank)
        else (Machine.powered blank).loadProgram session.program) = .ok (.powered memory) := by
    split
    · next empty =>
      rw [List.isEmpty_iff.1 empty, Machine.powered_loadProgram_nil blankSize] at loaded
      exact loaded
    · exact loaded
  rw [reset_eq_bind, tracks.sized.reset_eq, tracks.font, lettered_font, lettered, ok_bind, programmed,
    ok_bind]

theorem act (tracks : session.Tracks loadsFont image) (action : Action) :
    (session.act action).Tracks loadsFont ((session.loads? action).or image) := by
  cases action with
  | call call => exact invariant.call tracks call
  | machine call => exact { tracks with sized := tracks.sized.call call }
  | overwrite values =>
      have sized := tracks.sized
      exact { tracks with sized := ⟨sized.memory, sized.screen⟩ }
  | loadProgram program =>
      simp only [Session.act, loads?]
      cases loaded : session.loadProgram program with
      | ok after => exact tracks.loadProgram loaded
      | error fault => exact tracks
  | loadFile directory path =>
      simp only [Session.act, loads?]
      cases loaded : session.loadFile directory path with
      | ok after =>
          obtain ⟨program, read, programmed⟩ := loadFile_eq_ok loaded
          rw [read]
          exact tracks.loadProgram programmed
      | error fault => cases directory.read path <;> exact tracks
  | reset =>
      obtain ⟨memory, loaded, size, result⟩ := tracks.reset_eq
      have sized := (Machine.powered_wellFormed size).sized
      simp only [Session.act, result]
      exact { tracks with sized := sized }
  | restore directory path => exact tracks.restore directory path

theorem acts (tracks : session.Tracks loadsFont image) (series : List Action) :
    (session.acts series).Tracks loadsFont (session.lastLoaded image series) := by
  induction series generalizing session image with
  | nil => exact tracks
  | cons action rest induction => exact induction (tracks.act action)

end Tracks

theorem start_tracks {cyclesPerFrame : Int} (started : start loadsFont cyclesPerFrame = .ok session) :
    session.Tracks loadsFont none := by
  have positive : 1 ≤ cyclesPerFrame := by
    apply Int.not_lt.1
    intro tooFew
    rw [start, if_pos tooFew] at started
    cases started
  obtain ⟨memory, lettered, size, -⟩ := Machine.lettered_ok (length_font loadsFont)
  cases (start_eq_ok positive lettered).symm.trans started
  exact
    { sized := (Machine.powered_wellFormed size).sized
      font := rfl
      program := rfl
      room := Nat.zero_le _ }

theorem create_tracks {directory : Directory} {config : Config}
    (created : create directory config = .ok origin) :
    origin.Tracks config.loadsFont (config.image? directory) := by
  obtain ⟨started, begun, rest⟩ := bind_eq_ok_iff.1 created
  have tracks := start_tracks begun
  simp only [Config.image?]
  cases path : config.program with
  | none =>
      simp only [path] at rest
      cases rest
      exact tracks
  | some path =>
      simp only [path] at rest
      obtain ⟨program, read, programmed⟩ := loadFile_eq_ok rest
      simp only [Option.map_some, read]
      exact tracks.loadProgram programmed

theorem anew_eq_ok {cyclesPerFrame : Int} {memory : Memory} (positive : 1 ≤ cyclesPerFrame)
    (loaded : Machine.loaded (font loadsFont) (image.getD []) = .ok (.powered memory)) :
    ∃ fresh, anew loadsFont cyclesPerFrame image = .ok fresh ∧ fresh.machine = .powered memory := by
  obtain ⟨blank, lettered, size, -⟩ := Machine.lettered_ok (length_font loadsFont)
  have started := start_eq_ok positive lettered
  simp only [Machine.loaded, lettered, ok_bind] at loaded
  cases image with
  | none =>
      refine ⟨_, by rw [anew, started]; rfl, ?_⟩
      rw [Option.getD_none, Machine.powered_loadProgram_nil size] at loaded
      exact Except.ok.inj loaded
  | some program =>
      rw [Option.getD_some] at loaded
      refine ⟨{ loadsFont, cyclesPerFrame, machine := .powered memory, debugger := {}, total := 0, program },
        ?_, rfl⟩
      simp only [anew, started, ok_bind, Session.loadProgram, loaded, pure_eq_ok]

/-- A reset leads to the machine of a new session with the program that was loaded last, whatever
has been done to the old one.  Breakpoints are kept, and only what the debugger was asked for or has
answered since is forgotten. -/
theorem reset_starts_afresh {directory : Directory} {config : Config} {origin : Session}
    (created : create directory config = .ok origin) (series : List Action) :
    ∃ after, (origin.acts series).reset = .ok after ∧
      (∀ cyclesPerFrame, 1 ≤ cyclesPerFrame → ∃ fresh,
        anew config.loadsFont cyclesPerFrame
            (origin.lastLoaded (config.image? directory) series) = .ok fresh ∧
          after.machine = fresh.machine) ∧
      after.total = 0 ∧
      after.debugger =
        { (origin.acts series).debugger with interrupt := false, lastEvent := none } := by
  obtain ⟨memory, loaded, -, result⟩ := ((create_tracks created).acts series).reset_eq
  refine ⟨_, result, ?_, rfl, rfl⟩
  intro cyclesPerFrame positive
  obtain ⟨fresh, made, machine⟩ := anew_eq_ok positive loaded
  exact ⟨fresh, made, machine.symm⟩

/-- A program that is too long does not replace the one before, and a reset undoes what is
written over the font. -/
theorem reset_after_failed_load :
    ∃ origin, create (.ofFiles []) ⟨none, true, 10⟩ = .ok origin ∧
      ∃ after fresh,
        (origin.acts [.loadProgram [0x22, 0x00], .loadProgram (List.replicate 4000 0),
          .machine (.memory (.write 0x50 7))]).reset = .ok after ∧
        anew true 10 (some [0x22, 0x00]) = .ok fresh ∧ after.machine = fresh.machine := by
  have positive : (1 : Int) ≤ 10 := by decide
  obtain ⟨origin, programmed, image, started, loaded, -⟩ :=
    started_powered true positive (by decide : [(0x22 : UInt8), 0x00].length ≤ _)
  have created : create (.ofFiles []) ⟨none, true, 10⟩ = .ok origin := by
    rw [create, started]
    rfl
  have tooLong : programmed.loadProgram (List.replicate 4000 0) = .error (.programTooLong 4000) := by
    rw [loadProgram, Machine.loadProgram, List.length_replicate, if_pos (by decide)]
    rfl
  have last : origin.lastLoaded none [.loadProgram [0x22, 0x00],
      .loadProgram (List.replicate 4000 0), .machine (.memory (.write 0x50 7))] =
        some [0x22, 0x00] := by
    have afterwards : origin.act (.loadProgram [0x22, 0x00]) = programmed := by
      rw [act, loaded]
      rfl
    simp only [lastLoaded, loads?, loaded, afterwards, tooLong]
    rfl
  obtain ⟨after, result, afresh, -⟩ := reset_starts_afresh created
    [.loadProgram [0x22, 0x00], .loadProgram (List.replicate 4000 0),
      .machine (.memory (.write 0x50 7))]
  obtain ⟨fresh, made, same⟩ := afresh 10 positive
  have image : (Config.mk none true 10).image? (.ofFiles []) = none := rfl
  rw [image, last] at made
  exact ⟨origin, created, after, fresh, result, made, same⟩

end Session

end ChipEight
