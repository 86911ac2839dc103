import ChipEight.Command.Lister
import ChipEight.Command.Runner
import ChipEight.Proofs.CommandLine
import ChipEight.Proofs.NumeralGrammar

namespace ChipEight

/-! Lines that ask for work, and the options that a command takes from them.

A line that asks for a run or for a listing is never refused: what it says is taken up, and what
it does not say has its default.
-/

open Text

namespace Directory

/-- A file stands under a path. -/
structure Holds (directory : Directory) (path : Path) (contents : Contents) : Prop where
  reached : directory.reach path = .ok ()
  stored : directory.find? path = some (.file contents)

/-- A text names a file that is there. -/
structure Leads (directory : Directory) (text : String) (path : Path) : Prop where
  nameable : Path.nameable text = true
  found : ∃ contents, directory.lookUp text = some (.file contents)
  path : Path.ofText text = path

variable {directory : Directory} {path : Path} {contents : Contents} {data : List UInt8}

theorem Holds.has (held : directory.Holds path contents) : directory.has path = .ok true := by
  rw [Directory.has, held.reached, held.stored]
  rfl

theorem Holds.read (held : directory.Holds path (.bytes data)) :
    directory.read path = .ok data := by
  rw [Directory.read, held.reached, ok_bind, held.stored]
  rfl

/-- A single file in a directory is found under its name. -/
theorem holds_rom (data : List UInt8) :
    (ofFiles [("rom", data)]).Holds ⟨.here, ["rom"]⟩ (.bytes data) ∧
      (ofFiles [("rom", data)]).Leads "rom" ⟨.here, ["rom"]⟩ := by
  have nameable : Path.nameable "rom" = true := by
    rw [Path.nameable, String.contains_char_eq]
    decide
  have path : Path.ofText "rom" = ⟨.here, ["rom"]⟩ := by decide
  have reached : (ofFiles [("rom", data)]).reach ⟨.here, ["rom"]⟩ = .ok () := by
    rw [reach, show Path.text ⟨.here, ["rom"]⟩ = "rom" from rfl, nameable]
    rfl
  refine ⟨⟨reached, rfl⟩, nameable, ⟨.bytes data, ?_⟩, path⟩
  rw [lookUp, path, reached]
  rfl

end Directory

namespace Command

variable {library : Library} {line : Line} {directory : Directory} {switch : Switch}
  {text : String}

/-- A command ends with an exit code, an output and the files there are then. -/
def Response.Exits (response : Response) (code : Nat) (stdout : String) (directory : Directory) :
    Prop :=
  ∃ verdict stderr, response = .finished verdict stdout stderr directory ∧ verdict.code = code

/-- What a line says of a count that is not below `least`, if it says anything. -/
def Line.Counts (line : Line) (switch : Switch) (least : Int) : Option Int → Prop
  | none => line.value? switch = none
  | some count => least ≤ count ∧
      ∃ text, line.value? switch = some text ∧ numeral? text.toList = some count

theorem Line.mem_firsts {options : List (Switch × String)} {before : List Switch}
    (member : switch ∈ options.foldl (fun seen option =>
      if seen.contains option.1 then seen else seen ++ [option.1]) before) :
    switch ∈ before ∨ options.any (·.1 == switch) = true := by
  induction options generalizing before with
  | nil => exact .inl member
  | cons option rest induction =>
      rw [List.any_cons, Bool.or_eq_true, beq_iff_eq]
      rcases induction member with earlier | later
      · dsimp only at earlier
        split at earlier
        · exact .inl earlier
        · rcases List.mem_append.1 earlier with known | new
          · exact .inl known
          · exact .inr (.inl (List.mem_singleton.1 new).symm)
      · exact .inr (.inr later)

theorem Line.has_of_mem_order (member : switch ∈ line.order) : line.has switch = true := by
  rcases mem_firsts member with none | given
  · cases none
  · exact given

/-- A command works on every line that asks for neither help nor a version. -/
theorem Tool.answer_eq_work {tool : Tool} {arguments : List String} (reads : library.Reads)
    (named : WellNamed tool.allSwitches) (spelled : Spelled tool.allSwitches arguments line)
    (version : line.has versionSwitch = false) (help : line.has helpSwitch = false) :
    tool.answer library arguments directory = tool.work library line directory := by
  have none : line.order.find? (fun switch => switch == versionSwitch || switch == helpSwitch) =
      none := by
    rw [List.find?_eq_none]
    intro switch member asked
    have given := line.has_of_mem_order member
    rcases Bool.or_eq_true_iff.1 asked with same | same
    · rw [beq_iff_eq.1 same, version] at given
      cases given
    · rw [beq_iff_eq.1 same, help] at given
      cases given
  simp only [answer, reads.line named spelled, none]

theorem Line.value?_of_absent (absent : line.has switch = false) : line.value? switch = none := by
  have none : line.options.filter (·.1 == switch) = [] := by
    rw [List.filter_eq_nil_iff]
    intro option member same
    exact List.any_eq_false.1 absent option member same
  rw [value?, values, none]
  rfl

theorem optional_of_absent {α : Type} {read : String → Reading α}
    (absent : line.has switch = false) : optional line switch read = .ok none := by
  rw [optional, Line.value?_of_absent absent]

theorem optional_of_counts (reads : library.Reads) {least : Int} {given : Option Int}
    (counts : line.Counts switch least given) :
    optional line switch (library.count least) = .ok given := by
  cases given with
  | none => rw [optional, show line.value? switch = none from counts]
  | some count =>
      obtain ⟨enough, text, value, numeral⟩ := counts
      rw [optional, value]
      simp only [reads.count numeral enough, ok_bind, pure_eq_ok]

theorem readOperand_of_leads (reads : library.Reads) {path : Path}
    (operand : line.operands = [text]) (leads : directory.Leads text path) :
    readOperand line (library.source directory) = .ok path := by
  obtain ⟨contents, found⟩ := leads.found
  rw [readOperand, operand, ← leads.path]
  simp only [reads.source leads.nameable found, ok_bind]
  rfl

theorem forM_of_passed {α : Type} {check : α → Reading Unit} (passed : ∀ value, check value = .ok ())
    (values : List α) : values.forM check = .ok () := by
  induction values with
  | nil => rfl
  | cons value rest induction => simp only [List.forM, passed, ok_bind, induction]

theorem readAddress_eq_ok {address : Int} (read : readAddress text = .ok address) :
    0 ≤ address ∧ address ≤ 0xFFFF := by
  unfold readAddress at read
  split at read
  · cases read
  · split at read
    · next range =>
      cases read
      exact range
    · cases read

/-- A count is given by its decimal digits. -/
theorem Line.counts_toString {least count : Int} (enough : least ≤ count) (natural : 0 ≤ count)
    (short : (toString count).length ≤ decimalLimit)
    (value : line.value? switch = some (toString count)) :
    line.Counts switch least (some count) := by
  obtain ⟨n, rfl⟩ := Int.eq_ofNat_of_zero_le natural
  exact ⟨enough, _, value, numeral?_toString short⟩

/-- The value of a switch, if it is on. -/
def Line.flag (on : Bool) : List String := if on then [""] else []

theorem Line.eq_of_mem_flag {on : Bool} : ∀ value ∈ flag on, value = "" := by
  cases on <;> simp [flag]

/-- A line of options with their values, in this order, and one operand. -/
def Line.ofParts (parts : List (Switch × List String)) (operand : String) : Line where
  options := parts.flatMap fun (switch, values) => values.map (switch, ·)
  operands := [operand]

variable {parts : List (Switch × List String)} {operand : String}

theorem Line.values_ofParts (parts : List (Switch × List String)) (operand : String)
    (switch : Switch) : (ofParts parts operand).values switch =
      parts.flatMap fun part => if part.1 = switch then part.2 else [] := by
  have values (part : Switch × List String) :
      ((part.2.map (part.1, ·)).filter (·.1 == switch)).map (·.2) =
        if part.1 = switch then part.2 else [] := by
    rw [List.filter_map, List.map_map]
    split
    · next same => simp [Function.comp_def, same]
    · next differs => simp [Function.comp_def, differs]
  simp only [ofParts, Line.values, List.filter_flatMap, List.map_flatMap, values]

theorem Line.spelled_ofParts {switches : List Switch}
    (plain : ∀ part ∈ parts, part.1 ∈ switches ∧
      (part.1.takesValue = false → ∀ value ∈ part.2, value = "")) :
    Spelled switches (ofParts parts operand).arguments (ofParts parts operand) := by
  apply spelled_arguments
  intro option member
  obtain ⟨part, known, given⟩ := List.mem_flatMap.1 member
  obtain ⟨value, stands, rfl⟩ := List.mem_map.1 given
  obtain ⟨here, bare⟩ := plain part known
  exact ⟨here, fun takes => bare takes value stands⟩

theorem Line.has_eq (line : Line) (switch : Switch) :
    line.has switch = !(line.values switch).isEmpty := by
  rw [has, values, List.isEmpty_map]
  induction line.options with
  | nil => rfl
  | cons option rest induction =>
      rw [List.any_cons, List.filter_cons, induction]
      cases option.1 == switch <;> rfl

namespace Runner

variable {options : Options}

/-- A line asks for a run with these options, and for no picture. -/
structure Asks (line : Line) (directory : Directory) (options : Options) : Prop where
  version : line.has versionSwitch = false
  help : line.has helpSwitch = false
  png : line.has png = false
  program : ∃ text, line.operands = [text] ∧ directory.Leads text options.program
  cycles : ∃ given, line.Counts cycles 0 given ∧ options.cycles = given.getD defaultCycles
  breaks : (line.values breakAt).mapM readAddress = .ok options.breaks
  scale : ∃ given, line.Counts scale 1 given ∧ options.scale = given.getD defaultScale
  loadsFont : options.loadsFont = !line.has noFont
  quiet : options.quiet = line.has quiet
  verbose : options.verbose = line.has verbose

theorem readBreaks_of_read {texts : List String} {breaks : List Int}
    (read : texts.mapM readAddress = .ok breaks) : readBreaks texts = .ok breaks := by
  induction texts generalizing breaks with
  | nil =>
      cases read
      rfl
  | cons text rest induction =>
      simp only [List.mapM_cons, bind_eq_ok_iff] at read
      obtain ⟨address, first, others, later, result⟩ := read
      cases result
      have accepted := induction later
      simp only [readBreaks] at accepted
      simp only [readBreaks, List.mapM_cons, first, accepted]
      rfl

theorem readOptions_of_asks (reads : library.Reads) (asks : Asks line directory options)
    (drawless : options.png = none) : readOptions library line directory = .ok options := by
  obtain ⟨text, operand, leads⟩ := asks.program
  obtain ⟨cycles, counted, cyclesSame⟩ := asks.cycles
  obtain ⟨scale, scaled, scaleSame⟩ := asks.scale
  have counted := optional_of_counts reads counted
  have scaled := optional_of_counts reads scaled
  have breaks := readBreaks_of_read asks.breaks
  have undrawn := @optional_of_absent line png Path (library.target directory) asks.png
  have passed (switch : Switch) : check library line directory switch = .ok () := by
    simp only [check, counted, breaks, undrawn, scaled]
    split_ifs <;> rfl
  simp only [readOptions, forM_of_passed passed, readOperand_of_leads reads operand leads, counted,
    breaks, undrawn, scaled, ok_bind, pure_eq_ok, ← cyclesSame, ← scaleSame, ← asks.loadsFont,
    ← asks.quiet, ← asks.verbose, ← drawless]

/-- A line that says how many cycles to run, where to stop and what to leave out. -/
def request (options : Options) (breaks : List String) (text : String) : Line :=
  .ofParts [(cycles, [toString options.cycles]), (breakAt, breaks),
    (noFont, Line.flag !options.loadsFont), (quiet, Line.flag options.quiet)] text

variable {breaks : List String}

theorem spelled_request : Spelled runner.allSwitches (request options breaks text).arguments
    (request options breaks text) := by
  apply Line.spelled_ofParts
  simp only [List.forall_mem_cons]
  exact ⟨⟨by decide, nofun⟩, ⟨by decide, nofun⟩, ⟨by decide, fun _ => Line.eq_of_mem_flag⟩,
    ⟨by decide, fun _ => Line.eq_of_mem_flag⟩, List.forall_mem_nil _⟩

theorem asks_request (natural : 0 ≤ options.cycles)
    (short : (toString options.cycles).length ≤ decimalLimit)
    (scale : options.scale = defaultScale) (silent : options.verbose = false)
    (accepted : breaks.mapM readAddress = .ok options.breaks)
    (leads : directory.Leads text options.program) :
    Asks (request options breaks text) directory options where
  version := by rw [Line.has_eq, request, Line.values_ofParts]; rfl
  help := by rw [Line.has_eq, request, Line.values_ofParts]; rfl
  png := by rw [Line.has_eq, request, Line.values_ofParts]; rfl
  program := ⟨text, rfl, leads⟩
  cycles := by
    refine ⟨some options.cycles, Line.counts_toString natural natural short ?_, rfl⟩
    rw [Line.value?, request, Line.values_ofParts]
    rfl
  breaks := by
    have same : (request options breaks text).values breakAt = breaks := by
      rw [request, Line.values_ofParts]
      exact List.append_nil _
    rwa [same]
  scale := by
    refine ⟨none, ?_, scale⟩
    change Line.value? _ _ = none
    rw [Line.value?, request, Line.values_ofParts]
    rfl
  loadsFont := by
    rw [Line.has_eq, request, Line.values_ofParts]
    cases options.loadsFont <;> rfl
  quiet := by
    rw [Line.has_eq, request, Line.values_ofParts]
    cases options.quiet <;> rfl
  verbose := by
    rw [Line.has_eq, request, Line.values_ofParts, silent]
    rfl

theorem answer_of_asks {arguments : List String} (reads : library.Reads)
    (spelled : Spelled runner.allSwitches arguments line) (asks : Asks line directory options)
    (drawless : options.png = none) :
    runner.answer library arguments directory = run options directory := by
  rw [Tool.answer_eq_work reads (by decide) spelled asks.version asks.help]
  simp only [runner, work, readOptions_of_asks reads asks drawless]

end Runner

namespace Lister

variable {options : Options}

/-- A line asks for a listing with these options, and not for one in a file. -/
structure Asks (line : Line) (directory : Directory) (options : Options) : Prop where
  version : line.has versionSwitch = false
  help : line.has helpSwitch = false
  output : line.has output = false
  image : ∃ text, line.operands = [text] ∧ directory.Leads text options.image
  address : options.address = (line.value? address).getD "0x200"
  count : line.Counts count 0 options.count
  showHex : options.showHex = line.has showHex
  noBytes : options.noBytes = line.has noBytes
  verbose : options.verbose = line.has verbose

theorem readOptions_of_asks (reads : library.Reads) (asks : Asks line directory options)
    (unwritten : options.output = none) : readOptions library line directory = .ok options := by
  obtain ⟨text, operand, leads⟩ := asks.image
  have counted := optional_of_counts reads asks.count
  have unnamed := @optional_of_absent line output Path (library.target directory) asks.output
  have passed (switch : Switch) : check library line directory switch = .ok () := by
    simp only [check, counted, unnamed]
    split_ifs <;> rfl
  simp only [readOptions, forM_of_passed passed, readOperand_of_leads reads operand leads, counted,
    unnamed, ok_bind, pure_eq_ok, ← asks.address, ← asks.showHex, ← asks.noBytes, ← asks.verbose,
    ← unwritten]

/-- A line that says where a listing starts, how many words it has and what stands in it. -/
def request (options : Options) (text : String) : Line :=
  .ofParts [(address, [options.address]), (count, options.count.toList.map toString),
    (showHex, Line.flag options.showHex), (noBytes, Line.flag options.noBytes)] text

theorem spelled_request : Spelled lister.allSwitches (request options text).arguments
    (request options text) := by
  apply Line.spelled_ofParts
  simp only [List.forall_mem_cons]
  exact ⟨⟨by decide, nofun⟩, ⟨by decide, nofun⟩, ⟨by decide, fun _ => Line.eq_of_mem_flag⟩,
    ⟨by decide, fun _ => Line.eq_of_mem_flag⟩, List.forall_mem_nil _⟩

theorem asks_request (natural : ∀ few ∈ options.count, 0 ≤ few)
    (short : ∀ few ∈ options.count, (toString few).length ≤ decimalLimit)
    (silent : options.verbose = false) (leads : directory.Leads text options.image) :
    Asks (request options text) directory options where
  version := by rw [Line.has_eq, request, Line.values_ofParts]; rfl
  help := by rw [Line.has_eq, request, Line.values_ofParts]; rfl
  output := by rw [Line.has_eq, request, Line.values_ofParts]; rfl
  image := ⟨text, rfl, leads⟩
  address := by
    rw [Line.value?, request, Line.values_ofParts]
    rfl
  count := by
    cases given : options.count with
    | none =>
        change Line.value? _ _ = none
        rw [Line.value?, request, Line.values_ofParts, given]
        rfl
    | some few =>
        have enough := natural few given
        refine Line.counts_toString enough enough (short few given) ?_
        rw [Line.value?, request, Line.values_ofParts, given]
        rfl
  showHex := by
    rw [Line.has_eq, request, Line.values_ofParts]
    cases options.showHex <;> rfl
  noBytes := by
    rw [Line.has_eq, request, Line.values_ofParts]
    cases options.noBytes <;> rfl
  verbose := by
    rw [Line.has_eq, request, Line.values_ofParts, silent]
    rfl

theorem answer_of_asks {arguments : List String} (reads : library.Reads)
    (spelled : Spelled lister.allSwitches arguments line) (asks : Asks line directory options)
    (unwritten : options.output = none) :
    lister.answer library arguments directory = run options directory := by
  rw [Tool.answer_eq_work reads (by decide) spelled asks.version asks.help]
  simp only [lister, work, readOptions_of_asks reads asks unwritten]

end Lister

end Command

end ChipEight
