import ChipEight.Machine.Report
import ChipEight.Proofs.Loading
import ChipEight.Proofs.MemoryDump

namespace ChipEight

/-! The report of a machine, read back.

None of its lines has a line end within it, so that it parts into them again.  How many lines each
section has depends on the sizes of memory and screen alone, and within a line the width of each
value is fixed.  So a report tells all that it shows.
-/

namespace Text

theorem intercalate_append_intercalate {separator : String} (front : List String)
    {back : List String} (nonempty : back ≠ []) :
    separator.intercalate (front ++ [separator.intercalate back]) =
      separator.intercalate (front ++ back) := by
  induction front with
  | nil => simp
  | cons first rest induction =>
      have one : rest ++ [separator.intercalate back] ≠ [] := by simp
      have several : rest ++ back ≠ [] := by simp [nonempty]
      rw [List.cons_append, List.cons_append, String.intercalate_cons_of_ne_nil one,
        String.intercalate_cons_of_ne_nil several, induction]

theorem plain_join {texts : List String} (each : ∀ text ∈ texts, plain text = true) :
    plain (String.join texts) = true := by
  induction texts with
  | nil => rfl
  | cons first rest induction =>
      have others := induction fun text member => each text (List.mem_cons_of_mem _ member)
      rw [String.join_cons, plain_append, each first List.mem_cons_self, others]
      rfl

/-- Values side by side, each as wide as any other one at its place, can be told apart. -/
theorem flatten_mapIdx_injective {α β : Type} {view : Nat → α → List β} {left right : List α}
    (number : left.length = right.length)
    (even : ∀ place first second, (view place first).length = (view place second).length)
    (injective : ∀ place first second, view place first = view place second → first = second)
    (same : (left.mapIdx view).flatten = (right.mapIdx view).flatten) : left = right := by
  induction left generalizing right view with
  | nil => exact (List.eq_nil_of_length_eq_zero number.symm).symm
  | cons first rest induction =>
      cases right with
      | nil => cases number
      | cons second others =>
          rw [List.mapIdx_cons, List.mapIdx_cons, List.flatten_cons, List.flatten_cons] at same
          obtain ⟨here, later⟩ := List.append_inj same (even 0 first second)
          obtain rfl := injective 0 first second here
          have tails := induction (Nat.succ.inj number) (fun place => even (place + 1))
            (fun place => injective (place + 1)) later
          rw [tails]

end Text

open Text

namespace Screen

variable {screen : Screen} {left right : List Bool}

/-- A row of pixels with one character for each. -/
def textRow (row : List Bool) : String :=
  String.join (row.map fun pixel => if pixel then "#" else ".")

theorem toList_textRow (row : List Bool) :
    (textRow row).toList = row.map fun pixel => if pixel then '#' else '.' := by
  induction row with
  | nil => rfl
  | cons pixel rest induction =>
      have unfolded : textRow (pixel :: rest) = (if pixel then "#" else ".") ++ textRow rest :=
        String.join_cons
      rw [unfolded, String.toList_append, induction]
      cases pixel <;> rfl

theorem textRow_injective (same : textRow left = textRow right) : left = right := by
  have characters := congrArg String.toList same
  rw [toList_textRow, toList_textRow] at characters
  exact (List.map_inj_right (by decide)).1 characters

theorem standardTextRows_injective {other : Screen} (width : screen.width = other.width)
    (height : screen.height = other.height)
    (same : screen.standardTextRows = other.standardTextRows) : screen = other := by
  have rows : screen.rows = other.rows := (List.map_inj_right fun _ _ => textRow_injective).1 same
  cases screen
  cases other
  simp only [Screen.mk.injEq]
  exact ⟨width, height, rows⟩

theorem plain_ruler (screen : Screen) : plain screen.ruler = true := by
  apply plain_join
  intro text member
  obtain ⟨column, -, rfl⟩ := List.mem_map.1 member
  exact plain_toString _

theorem plain_textRow (row : List Bool) : plain (textRow row) = true := by
  apply plain_join
  intro text member
  obtain ⟨pixel, -, rfl⟩ := List.mem_map.1 member
  cases pixel <;> rfl

end Screen

namespace Machine

variable {machine left right : Machine} {value other : Int}

def pcLine (machine : Machine) : String := s!"PC={hex 4 machine.pc}, IR={hex 4 machine.index}"

/-- What a report consists of, line by line. -/
def reportLines (machine : Machine) : List String :=
  [machine.pcLine, machine.registerLine, "", "Memory: "] ++ machine.memory.dumpRows ++
    (["", "Display:", machine.screen.ruler] ++ machine.screen.standardTextRows)

theorem report_eq (machine : Machine) :
    machine.report = "\n".intercalate machine.reportLines ++ "\n" := by
  obtain ⟨front, sections⟩ : ∃ front, front =
      [machine.pcLine, machine.registerLine, "", "Memory: "] ++ machine.memory.dumpRows ++
        ["", "Display:"] := ⟨_, rfl⟩
  obtain ⟨shown, screen⟩ : ∃ shown,
      shown = machine.screen.ruler :: machine.screen.standardTextRows := ⟨_, rfl⟩
  have report : machine.report = "\n".intercalate (front ++ ["\n".intercalate shown]) ++ "\n" := by
    rw [sections, screen, List.append_assoc]
    rfl
  have lines : machine.reportLines = front ++ shown := by
    rw [sections, screen, List.append_assoc]
    rfl
  rw [report, lines, intercalate_append_intercalate front (by simp [screen])]

theorem plain_pcLine (machine : Machine) : plain machine.pcLine = true := by
  simp only [pcLine, plain_append, toString, plain_hex]
  rfl

theorem plain_registerLine (machine : Machine) : plain machine.registerLine = true := by
  apply plain_join
  intro text member
  obtain ⟨number, inside, rfl⟩ := List.mem_mapIdx.1 member
  simp only [plain_append, toString, plain_decimal, plain_hexByte]
  rfl

theorem plain_of_mem_reportLines {line : String} (member : line ∈ machine.reportLines) :
    plain line = true := by
  simp only [reportLines, List.mem_append, List.mem_cons, List.not_mem_nil, or_false] at member
  rcases member with ((rfl | rfl | rfl | rfl) | row) | (rfl | rfl | rfl) | row
  · exact machine.plain_pcLine
  · exact machine.plain_registerLine
  · rfl
  · rfl
  · exact Memory.plain_of_mem_rowsOf row
  · rfl
  · rfl
  · exact machine.screen.plain_ruler
  · obtain ⟨pixels, -, rfl⟩ := List.mem_map.1 row
    exact Screen.plain_textRow pixels

/-- A report parts into its lines, and there is nothing behind the end of the last one. -/
theorem splitOn_report (machine : Machine) :
    machine.report.toList.dropLast.splitOn '\n' = machine.reportLines.map String.toList := by
  have whole : ∀ line ∈ machine.reportLines.map String.toList, '\n' ∉ line := by
    intro line member
    obtain ⟨text, listed, rfl⟩ := List.mem_map.1 member
    exact notMem_of_plain (plain_of_mem_reportLines listed) rfl
  have ended : machine.report.toList = ['\n'].intercalate (machine.reportLines.map String.toList) ++
      ['\n'] := by
    rw [report_eq, String.toList_append, String.toList_intercalate]
    rfl
  rw [ended, List.dropLast_concat]
  exact List.splitOn_intercalate '\n' whole (by simp [reportLines])

theorem reportLines_injective (same : left.report = right.report) :
    left.reportLines = right.reportLines := by
  have lines := left.splitOn_report
  rw [same, right.splitOn_report] at lines
  exact ((List.map_inj_right fun _ _ => String.toList_inj.1).1 lines).symm

theorem length_hexWord (range : 0 ≤ value ∧ value < 0x10000) : (hex 4 value).toList.length = 4 := by
  obtain ⟨value, rfl⟩ := Int.eq_ofNat_of_zero_le range.1
  have few : (hexDigits value).length ≤ 4 := by
    rw [hexDigits, List.length_map]
    exact Nat.toDigits_length 16 value 4 (by decide) (by omega)
  exact length_hex few

theorem hex_injective {width : Nat} (positive : 0 ≤ value ∧ 0 ≤ other)
    (same : hex width value = hex width other) : value = other := by
  obtain ⟨value, rfl⟩ := Int.eq_ofNat_of_zero_le positive.1
  obtain ⟨other, rfl⟩ := Int.eq_ofNat_of_zero_le positive.2
  have read := number?_hex width value
  rw [same, number?_hex] at read
  exact congrArg Int.ofNat (Option.some.inj read).symm

theorem pcLine_injective (leftFormed : left.WellFormed) (rightFormed : right.WellFormed)
    (same : left.pcLine = right.pcLine) : left.pc = right.pc ∧ left.index = right.index := by
  have characters (machine : Machine) : machine.pcLine.toList =
      "PC=".toList ++ ((hex 4 machine.pc).toList ++
        (", IR=".toList ++ (hex 4 machine.index).toList)) := by
    simp only [pcLine, String.toList_append, List.append_assoc]
    rfl
  have shown := congrArg String.toList same
  rw [characters, characters, List.append_cancel_left_eq] at shown
  have width : (hex 4 left.pc).toList.length = (hex 4 right.pc).toList.length :=
    (length_hexWord leftFormed.pc).trans (length_hexWord rightFormed.pc).symm
  obtain ⟨pc, rest⟩ := List.append_inj shown width
  have index := List.append_cancel_left rest
  exact ⟨hex_injective ⟨leftFormed.pc.1, rightFormed.pc.1⟩ (String.toList_inj.1 pc),
    hex_injective ⟨leftFormed.index.1, rightFormed.index.1⟩ (String.toList_inj.1 index)⟩

/-- A register as it stands in its line. -/
def registerEntry (number : Nat) (byte : UInt8) : List Char :=
  ((decimal 2 number).toList ++ ['=']) ++ ((hexByte byte).toList ++ [',', ' '])

theorem toList_registerLine (machine : Machine) :
    machine.registerLine.toList = (machine.registers.mapIdx registerEntry).flatten := by
  have entry (number : Nat) (byte : UInt8) :
      s!"{decimal 2 number}={hexByte byte}, ".toList = registerEntry number byte := by
    simp only [registerEntry, String.toList_append, toString, List.append_assoc]
    rfl
  rw [registerLine, String.toList_join, List.flatMap_def, List.mapIdx_eq_zipIdx_map, List.map_map,
    List.mapIdx_eq_zipIdx_map]
  exact congrArg List.flatten (List.map_congr_left fun place _ => entry place.2 place.1)

theorem registerLine_injective (number : left.registers.length = right.registers.length)
    (same : left.registerLine = right.registerLine) : left.registers = right.registers := by
  have width (byte : UInt8) : (hexByte byte).toList.length = 2 := by
    rw [String.length_toList, length_hexByte]
  have shown := congrArg String.toList same
  rw [toList_registerLine, toList_registerLine] at shown
  refine flatten_mapIdx_injective number ?_ ?_ shown
  · intro place first second
    simp only [registerEntry, List.length_append, width]
  · intro place first second entries
    have bytes := List.append_cancel_right (List.append_cancel_left entries)
    have read := Memory.group?_hexByte first
    rw [bytes, Memory.group?_hexByte] at read
    exact (Option.some.inj read).symm

/-- Everything that a report shows is told by its lines. -/
theorem shown_of_reportLines (leftFormed : left.WellFormed) (rightFormed : right.WellFormed)
    (same : left.reportLines = right.reportLines) :
    left.pc = right.pc ∧ left.index = right.index ∧ left.registers = right.registers ∧
      left.memory = right.memory ∧ left.screen = right.screen := by
  have size : left.memory.size = right.memory.size :=
    leftFormed.memory.trans rightFormed.memory.symm
  have number : left.memory.dumpRows.length = right.memory.dumpRows.length :=
    Memory.length_dumpRows size
  have counted : left.registers.length = right.registers.length :=
    leftFormed.registers.trans rightFormed.registers.symm
  obtain ⟨front, back⟩ := List.append_inj same (by simp [number])
  obtain ⟨values, rows⟩ := List.append_inj front rfl
  obtain ⟨-, picture⟩ := List.append_inj back rfl
  obtain ⟨pc, index⟩ := pcLine_injective leftFormed rightFormed (List.cons.inj values).1
  have registers := registerLine_injective counted (List.cons.inj (List.cons.inj values).2).1
  have screen := Screen.standardTextRows_injective
    (leftFormed.width.trans rightFormed.width.symm)
    (leftFormed.height.trans rightFormed.height.symm) picture
  exact ⟨pc, index, registers, Memory.dumpRows_injective rows, screen⟩

/-- Nothing is lost in a dump: the rows of memory can be read back at any width, and machines with
the same report agree in everything that it shows. -/
theorem dumps_are_lossless :
    (∀ (memory : Memory) (rowSize : Int), 1 ≤ rowSize →
      ∃ lines, memory.dump rowSize = .ok lines ∧
        Memory.Dumped memory.toList rowSize.toNat lines) ∧
      ∀ left right : Machine, left.WellFormed → right.WellFormed → left.report = right.report →
        left.pc = right.pc ∧ left.index = right.index ∧ left.registers = right.registers ∧
          left.memory = right.memory ∧ left.screen = right.screen := by
  constructor
  · intro memory rowSize positive
    exact memory.dump_dumped positive
  · intro left right leftFormed rightFormed same
    exact shown_of_reportLines leftFormed rightFormed (reportLines_injective same)

/-- A memory of three bytes in rows of two, and two machines that differ in nothing shown. -/
theorem dumps_of_three_bytes_and_machines :
    (∃ lines, (Memory.mk #[0x12, 0x34, 0x56]).dump 2 = .ok lines ∧
      Memory.Dumped [0x12, 0x34, 0x56] 2 lines ∧ lines.length = 2) ∧
      ∃ other : Machine, other ≠ initial ∧ initial.WellFormed ∧ other.WellFormed ∧
        initial.report = other.report ∧ initial.memory = other.memory ∧
        initial.screen = other.screen := by
  obtain ⟨dumps, reports⟩ := dumps_are_lossless
  obtain ⟨lines, dumped, shown⟩ := dumps ⟨#[0x12, 0x34, 0x56]⟩ 2 (by decide)
  let other : Machine := { initial with delay := 1 }
  have different : other ≠ initial := fun same => absurd (congrArg Machine.delay same) (by decide)
  have formed : other.WellFormed := { initial_wellFormed with delay := by decide }
  have same : initial.report = other.report := rfl
  obtain ⟨-, -, -, memory, screen⟩ := reports initial other initial_wellFormed formed same
  exact ⟨⟨lines, dumped, shown, shown.number⟩,
    other, different, initial_wellFormed, formed, same, memory, screen⟩

end Machine

end ChipEight
