import ChipEight.Proofs.Arguments
import ChipEight.Proofs.RunOutcome
import ChipEight.Proofs.Starting

namespace ChipEight

/-! What becomes of a program that the runner is given.

A program that fits in memory is run up to a breakpoint, to a fault or through all of its cycles.
The debugger of the runner holds nothing but the breakpoints, so where it stops is read off the
program counter, and every fault on the way is one the machine rejects the program with.
-/

open Text

namespace Debugger

variable {machine : Machine} {addresses : List Int} {pc opcode : Int}

theorem foldl_addAddress (breaks before : List Int) :
    ∃ addresses, breaks.foldl addAddress { addresses := before } = { addresses } ∧
      ∀ word, word ∈ addresses ↔ word ∈ before ∨ word ∈ breaks.map Bits.lowWord := by
  induction breaks generalizing before with
  | nil => exact ⟨before, rfl, by simp⟩
  | cons first rest induction =>
      obtain ⟨addresses, folded, members⟩ := induction (insertAscending (Bits.lowWord first) before)
      refine ⟨addresses, folded, fun word => ?_⟩
      rw [members, mem_insertAscending, List.map_cons, List.mem_cons, or_comm (a := word = _),
        or_assoc]

/-- Breakpoints that are words are the addresses to stop at. -/
theorem breaks_listed {breaks : List Int}
    (range : ∀ address ∈ breaks, 0 ≤ address ∧ address ≤ 0xFFFF) :
    ∃ addresses, breaks.foldl addAddress {} = { addresses } ∧
      ∀ word, word ∈ addresses ↔ word ∈ breaks := by
  obtain ⟨addresses, folded, members⟩ := foldl_addAddress breaks []
  have same : breaks.map Bits.lowWord = breaks.map id := by
    apply List.map_congr_left
    intro address member
    have := range address member
    simp only [Bits.lowWord, id_eq]
    omega
  refine ⟨addresses, folded, fun word => ?_⟩
  rw [members, same, List.map_id]
  simp

theorem matches_addresses_iff :
    ({ addresses } : Debugger).Matches machine ↔ machine.pc ∈ addresses := by
  simp [Matches, StopsAt]

theorem consult_address (listed : pc ∈ addresses) :
    ({ addresses } : Debugger).consult machine pc opcode =
      let event : Event := ⟨.address, some pc, some opcode, "Breakpoint at " ++ dollar pc⟩
      .ok (some event, { addresses, lastEvent := some event }) := by
  simp [consult, listed]

end Debugger

theorem Event.text_of_message {event : Event} (worded : event.message ≠ "") :
    event.text = event.message := if_pos worded

theorem Session.loadFile_of_held {session : Session} {directory : Directory} {path : Path}
    {program : List UInt8} (held : directory.Holds path (.bytes program)) :
    session.loadFile directory path = session.loadProgram program := by
  rw [loadFile, held.has, held.read]
  rfl

namespace Command

variable {directory : Directory} {program : List UInt8}

namespace Runner

variable {options : Options}

/-- The machine under a title. -/
def shown (title : String) (machine : Machine) : String := s!"{title}:\n{machine.report}\n"

/-- What a runner writes before the program runs. -/
def opening (options : Options) (machine : Machine) : String :=
  if options.quiet then "" else shown "Initial" machine

/-- What a runner writes when it has executed so many instructions. -/
def closing (executed : Nat) (machine : Machine) : String :=
  shown s!"After {executed} cycles" machine

/-- A run comes to a state, past no breakpoint and never beyond the last word of memory. -/
structure Reaches (options : Options) (fresh : Machine) (executed : Nat) (machine : Machine) :
    Prop where
  ran : Machine.steps executed fresh = .ok () machine
  passed : ∀ earlier < executed, ∀ before, Machine.steps earlier fresh = .ok () before →
    before.pc ≤ 0xFFE ∧ before.pc ∉ options.breaks

/-- The session that a program is run in. -/
def loadedSession (options : Options) (machine : Machine) (program : List UInt8) : Session :=
  { loadsFont := options.loadsFont
    cyclesPerFrame := 10
    machine
    debugger := options.breaks.foldl .addAddress {}
    total := 0
    program }

theorem load_fits (held : directory.Holds options.program (.bytes program))
    (room : program.length ≤ Machine.programRoom) :
    ∃ fresh, Machine.loaded (Session.font options.loadsFont) program = .ok fresh ∧
      fresh.WellFormed ∧ load options directory = .ok (loadedSession options fresh program) := by
  obtain ⟨image, loaded, size, -⟩ := Machine.loaded_ok (Session.font options.loadsFont) program
    (Session.length_font options.loadsFont) room
  obtain ⟨lettered, fonted, programmed⟩ := bind_eq_ok_iff.1 loaded
  refine ⟨.powered image, loaded, Machine.powered_wellFormed size, ?_⟩
  rw [load, Session.start_eq_ok (by decide) fonted, ok_bind,
    Session.loadFile_of_held held, Session.loadProgram, programmed]
  rfl

theorem load_exceeds (held : directory.Holds options.program (.bytes program))
    (long : Machine.programRoom < program.length) :
    load options directory = .error (.programTooLong program.length) := by
  obtain ⟨image, lettered, -⟩ := Machine.lettered_ok (Session.length_font options.loadsFont)
  rw [load, Session.start_eq_ok (by decide) lettered, ok_bind,
    Session.loadFile_of_held held, Session.loadProgram, Machine.loadProgram, if_pos long]
  rfl

theorem rejected_of_step {machine left : Machine} {fault : Fault} (formed : machine.WellFormed)
    (failed : machine.step = .error fault left) : fault.kind.verdict = .rejected := by
  rcases formed.step_result with ⟨after, stepped⟩ | ⟨_, _, same, kind⟩
  · cases stepped.symm.trans failed
  · cases same.symm.trans failed
    rcases kind with kind | kind | kind <;> rw [kind] <;> rfl

/-- How the run of a program ends in the state it has come to. -/
inductive Ending (options : Options) (executed : Nat) (machine : Machine) :
    Outcome Session Event → Prop where
  | failed (more : executed < options.cycles)
      (unstopped : 0xFFE < machine.pc ∨ machine.pc ∉ options.breaks) {fault : Fault}
      {left : Machine} {after : Session} (step : machine.step = .error fault left) :
      Ending options executed machine (.error fault after)
  | stopped (more : executed < options.cycles) (within : machine.pc ≤ 0xFFE)
      (listed : machine.pc ∈ options.breaks) {event : Event} {after : Session}
      (reason : event.reason = .address) (text : event.text = "Breakpoint at " ++ dollar machine.pc)
      (left : after.machine = machine) (counted : after.total = executed) :
      Ending options executed machine (.ok event after)
  | spent (all : executed = options.cycles) {event : Event} {after : Session}
      (reason : event.reason = .budget) (left : after.machine = machine)
      (counted : after.total = executed) : Ending options executed machine (.ok event after)

theorem run_ends {fresh : Machine} (natural : 0 ≤ options.cycles)
    (range : ∀ address ∈ options.breaks, 0 ≤ address ∧ address ≤ 0xFFFF)
    (formed : fresh.WellFormed) :
    ∃ executed machine, Reaches options fresh executed machine ∧ machine.WellFormed ∧
      Ending options executed machine
        ((loadedSession options fresh program).run options.cycles) := by
  obtain ⟨addresses, folded, members⟩ := Debugger.breaks_listed range
  let session := loadedSession options fresh program
  have debugger : session.debugger = { addresses } := folded
  have stops (machine : Machine) :
      session.debugger.Matches machine ↔ machine.pc ∈ options.breaks := by
    rw [debugger, Debugger.matches_addresses_iff, members]
  obtain ⟨executed, machine, ran, passed, ending⟩ :=
    @Session.runFor_ends session formed options.cycles.toNat
  have left := formed.steps ran
  have counted : session.total + executed = executed := Nat.zero_add executed
  refine ⟨executed, machine, ⟨ran, ?_⟩, left, ?_⟩
  · intro earlier less before reached
    obtain ⟨within, passes⟩ := passed earlier less before reached
    exact ⟨within, fun listed => passes ((stops before).2 listed)⟩
  change Ending options executed machine (session.run options.cycles)
  obtain ⟨outcome, result⟩ : ∃ outcome, Session.runFor options.cycles.toNat session = outcome :=
    ⟨_, rfl⟩
  rw [result] at ending
  simp only [Session.run, result]
  cases ending with
  | beyond more outside =>
      have refused : machine.refusal? = some (.fetchOutsideMemory machine.pc) := if_pos outside
      exact .failed (by omega) (.inl outside) (left.step_refused refused)
  | stopped more within matching consulted =>
      have listed := (stops machine).1 matching
      rw [debugger, Debugger.consult_address ((members _).2 listed)] at consulted
      cases consulted
      refine .stopped (by omega) within listed rfl ?_ rfl counted
      apply Event.text_of_message
      simp
  | failed more within passes step =>
      exact .failed (by omega) (.inr fun listed => passes ((stops machine).2 listed)) step
  | spent all => exact .spent (by omega) rfl rfl counted

section

variable {fresh : Machine} {after : Session}

theorem run_failed {fault : Fault}
    (loaded : load options directory = .ok (loadedSession options fresh program))
    (ran : (loadedSession options fresh program).run options.cycles = .error fault after)
    (rejected : fault.kind.verdict = .rejected) :
    (run options directory).Exits 1 (opening options fresh) directory := by
  simp only [run, loaded, ran, fail, rejected]
  exact ⟨_, _, rfl, rfl⟩

theorem run_stopped {event : Event} (drawless : options.png = none)
    (loaded : load options directory = .ok (loadedSession options fresh program))
    (ran : (loadedSession options fresh program).run options.cycles = .ok event after)
    (reason : event.reason = .address) :
    (run options directory).Exits 0
      (opening options fresh ++ ("Stopped: " ++ event.text ++ "\n") ++
        closing after.total after.machine) directory := by
  have early : event.reason ≠ .budget := by
    rw [reason]
    decide
  simp only [run, loaded, ran, if_neg early, finish, drawless]
  exact ⟨_, _, rfl, rfl⟩

theorem run_spent {event : Event} (drawless : options.png = none)
    (loaded : load options directory = .ok (loadedSession options fresh program))
    (ran : (loadedSession options fresh program).run options.cycles = .ok event after)
    (all : event.reason = .budget) :
    (run options directory).Exits 0
      (opening options fresh ++ closing after.total after.machine) directory := by
  simp only [run, loaded, ran, if_pos all, finish, drawless]
  exact ⟨_, _, rfl, rfl⟩

end

/-- How a run ends, for every program, every number of cycles, every list of breakpoints and every
choice of what to leave out.

A program that is too long is rejected without a word.  Any other is run up to the first state that
stands at a breakpoint, up to the first that does not make a step, or through all of its cycles,
and only the second of these is a failure.  The arguments that ask for the run are taken up with
exactly these options, however they are spelled; the ones that give the number of cycles in its
digits are such arguments.  Of the library that takes them apart nothing is known but what it is
relied on for. -/
theorem runner_exits {library : Library} (reads : library.Reads) (natural : 0 ≤ options.cycles)
    (range : ∀ address ∈ options.breaks, 0 ≤ address ∧ address ≤ 0xFFFF)
    (drawless : options.png = none) (held : directory.Holds options.program (.bytes program)) :
    (∀ arguments line, Spelled runner.allSwitches arguments line → Asks line directory options →
      runner.answer library arguments directory = run options directory) ∧
    (∀ breaks text, breaks.mapM readAddress = .ok options.breaks →
      directory.Leads text options.program → (toString options.cycles).length ≤ 4300 →
      options.scale = defaultScale → options.verbose = false →
      runner.answer library (request options breaks text).arguments directory =
        run options directory) ∧
    (3584 < program.length → (run options directory).Exits 1 "" directory) ∧
    (program.length ≤ 3584 →
      ∃ fresh, Machine.loaded (Session.font options.loadsFont) program = .ok fresh ∧
        ∃ executed machine, Reaches options fresh executed machine ∧
          (executed < options.cycles ∧ (0xFFE < machine.pc ∨ machine.pc ∉ options.breaks) ∧
              (∃ fault left, machine.step = .error fault left) ∧
              (run options directory).Exits 1 (opening options fresh) directory ∨
            executed < options.cycles ∧ machine.pc ≤ 0xFFE ∧ machine.pc ∈ options.breaks ∧
              (run options directory).Exits 0
                (opening options fresh ++
                  ("Stopped: " ++ ("Breakpoint at " ++ dollar machine.pc) ++ "\n") ++
                  closing executed machine) directory ∨
            executed = options.cycles ∧
              (run options directory).Exits 0
                (opening options fresh ++ closing executed machine) directory)) := by
  refine ⟨?_, ?_, ?_, ?_⟩
  · intro arguments line spelled asks
    exact answer_of_asks reads spelled asks drawless
  · intro breaks text accepted leads short scale silent
    exact answer_of_asks reads spelled_request
      (asks_request natural short scale silent accepted leads) drawless
  · intro long
    have loaded := load_exceeds held long
    have rejected : (Fault.programTooLong program.length).kind.verdict = .rejected := rfl
    simp only [run, loaded, fail, rejected]
    exact ⟨_, _, rfl, rfl⟩
  · intro room
    obtain ⟨fresh, image, formed, loaded⟩ := load_fits held room
    obtain ⟨executed, machine, reaches, left, ending⟩ :=
      @run_ends program options fresh natural range formed
    refine ⟨fresh, image, executed, machine, reaches, ?_⟩
    obtain ⟨outcome, ran⟩ :
        ∃ outcome, (loadedSession options fresh program).run options.cycles = outcome := ⟨_, rfl⟩
    rw [ran] at ending
    cases ending with
    | failed more unstopped step =>
        exact .inl ⟨more, unstopped, ⟨_, _, step⟩,
          run_failed loaded ran (rejected_of_step left step)⟩
    | stopped more within listed reason text same counted =>
        have exits := run_stopped drawless loaded ran reason
        rw [text, same, counted] at exits
        exact .inr (.inl ⟨more, within, listed, exits⟩)
    | spent all reason same counted =>
        have exits := run_spent drawless loaded ran reason
        rw [same, counted] at exits
        exact .inr (.inr ⟨all, exits⟩)

/-- A breakpoint at the first instruction stops a program there, and one that is too long for
memory is not even reported. -/
theorem runner_exits_at_once :
    let arguments := ["-n", "2", "-b", "0x200", "-q", "rom"]
    let directory := fun program : List UInt8 => Directory.ofFiles [("rom", program)]
    let long : List UInt8 := List.replicate 3585 0
    let jump : List UInt8 := [0x12, 0x00]
    3584 < long.length ∧ jump.length ≤ 3584 ∧
      (runner.answer plainLibrary arguments (directory long)).Exits 1 "" (directory long) ∧
      ∃ fresh, Machine.loaded (Session.font true) jump = .ok fresh ∧
        (runner.answer plainLibrary arguments (directory jump)).Exits 0
          ("Stopped: Breakpoint at $0200\n" ++ closing 0 fresh) (directory jump) := by
  intro arguments directory long jump
  let line : Line := ⟨[(cycles, "2"), (breakAt, "0x200"), (quiet, "")], ["rom"]⟩
  let options : Options :=
    { program := ⟨.here, ["rom"]⟩
      cycles := 2
      loadsFont := true
      breaks := [0x200]
      png := none
      scale := 10
      quiet := true
      verbose := false }
  have spelled : Spelled runner.allSwitches arguments line :=
    .valued (by decide) (.short rfl) rfl (.valued (by decide) (.short rfl) rfl
      (.flag (by decide) (.short rfl) rfl (.operand (by decide) .nothing)))
  have asks (program : List UInt8) : Asks line (directory program) options :=
    { version := by decide
      help := by decide
      png := by decide
      program := ⟨"rom", rfl, (Directory.holds_rom program).2⟩
      cycles := ⟨some 2, ⟨by decide, "2", rfl, rfl⟩, rfl⟩
      breaks := rfl
      scale := ⟨none, rfl, rfl⟩
      loadsFont := rfl
      quiet := rfl
      verbose := rfl }
  have exits (program : List UInt8) :=
    @runner_exits (directory program) program options plainLibrary plainLibrary_reads (by decide)
      (by decide) rfl (Directory.holds_rom program).1
  have answer (program : List UInt8) :
      runner.answer plainLibrary arguments (directory program) = run options (directory program) :=
    (exits program).1 arguments line spelled (asks program)
  have exceeds : 3584 < long.length := by
    rw [List.length_replicate]
    decide
  have room : jump.length ≤ 3584 := by decide
  rw [answer, answer]
  obtain ⟨-, -, rejected, -⟩ := exits long
  obtain ⟨-, -, -, fits⟩ := exits jump
  refine ⟨exceeds, room, rejected exceeds, ?_⟩
  obtain ⟨fresh, loaded, executed, machine, reaches, ending⟩ := fits room
  have start : fresh.pc = 0x200 := by
    obtain ⟨image, powered, -⟩ := Machine.loaded_ok (Session.font true) jump
      (Session.length_font true) room
    cases powered.symm.trans loaded
    rfl
  have listed : fresh.pc ∈ options.breaks := by
    rw [start]
    decide
  cases executed with
  | succ executed => exact absurd listed (reaches.passed 0 (Nat.succ_pos executed) fresh rfl).2
  | zero =>
      cases reaches.ran
      rcases ending with ⟨-, unstopped, -⟩ | ⟨-, -, -, stopped⟩ | ⟨all, -⟩
      · rcases unstopped with outside | unlisted
        · rw [start] at outside
          exact absurd outside (by decide)
        · exact absurd listed unlisted
      · rw [start] at stopped
        exact ⟨fresh, loaded, stopped⟩
      · exact absurd all (by decide)

end Runner

end Command

end ChipEight
