import ChipEight.Proofs.Arguments
import ChipEight.Proofs.HexDump

namespace ChipEight

/-! What a listing of a program image says, and when there is none.

An image without bytes and an address that is none are the only reasons to list nothing.  All that
is written of an image is plain but for its name, so that the lines are shown as they are.
-/

namespace Text

/-- Lines as they are written, each with its end. -/
def ended (lines : List String) : String := String.join (lines.map (· ++ "\n"))

theorem ended_cons (line : String) (lines : List String) :
    ended (line :: lines) = line ++ "\n" ++ ended lines := by
  simp [ended, String.join_cons]

theorem intercalate_ended {lines : List String} (nonempty : lines ≠ []) :
    "\n".intercalate lines ++ "\n" = ended lines := by
  induction lines with
  | nil => exact absurd rfl nonempty
  | cons first rest induction =>
      cases rest with
      | nil => simp [ended, String.join_cons]
      | cons second rest =>
          rw [String.intercalate_cons_cons, ended_cons, ← induction (List.cons_ne_nil second rest)]
          simp only [String.append_assoc]

theorem afterControl?_bracket (first : Char) (rest : List Char) :
    afterControl? (first :: '[' :: rest) =
      match first == escape, rest.dropWhile parameter with
      | true, letter :: after => if letter.isAlpha then some after else none
      | _, _ => none := rfl

theorem afterControl?_of_ne {first second : Char} (other : second ≠ '[') (rest : List Char) :
    afterControl? (first :: second :: rest) = none := by
  simp [afterControl?, other]

theorem afterControl?_newline (rest : List Char) : afterControl? ('\n' :: rest) = none := by
  cases rest with
  | nil => rfl
  | cons second rest =>
      by_cases bracket : second = '['
      · rw [bracket, afterControl?_bracket]
        rfl
      · exact afterControl?_of_ne bracket rest

/-- No control sequence goes on beyond the end of a line. -/
theorem afterControl?_append (text rest : List Char) :
    afterControl? (text ++ '\n' :: rest) = (afterControl? text).map (· ++ '\n' :: rest) := by
  match text with
  | [] => exact afterControl?_newline rest
  | [first] => exact afterControl?_of_ne (by decide) rest
  | first :: second :: others =>
      by_cases bracket : second = '['
      · -- A line end is neither a parameter nor a letter.
        have stays : ('\n' :: rest).dropWhile parameter = '\n' :: rest := rfl
        rw [bracket, List.cons_append, List.cons_append, afterControl?_bracket,
          afterControl?_bracket, List.dropWhile_append, stays]
        cases first == escape with
        | false => rfl
        | true =>
            cases others.dropWhile parameter with
            | nil => rfl
            | cons letter after => cases alpha : letter.isAlpha <;> simp [alpha]
      · rw [afterControl?_of_ne bracket]
        exact afterControl?_of_ne bracket _

theorem withoutControls_cons (c : Char) (rest : List Char) :
    withoutControls (c :: rest) = match afterControl? (c :: rest) with
      | some after => withoutControls after
      | none => c :: withoutControls rest := by
  rw [withoutControls]
  split
  · next found => rw [found]
  · next found => rw [found]

theorem withoutControls_append (text rest : List Char) :
    withoutControls (text ++ '\n' :: rest) =
      withoutControls text ++ '\n' :: withoutControls rest := by
  fun_induction withoutControls text with
  | case1 =>
      rw [List.nil_append, List.nil_append, withoutControls_cons, afterControl?_newline]
  | case2 c others after found induction =>
      rw [List.cons_append, withoutControls_cons, ← List.cons_append, afterControl?_append, found]
      exact induction
  | case3 c others none induction =>
      rw [List.cons_append, withoutControls_cons, ← List.cons_append, afterControl?_append, none]
      exact congrArg (c :: ·) induction

/-- A text is shown line by line. -/
theorem shown_ended (lines : List String) : shown (ended lines) = ended (lines.map shown) := by
  induction lines with
  | nil => simp [ended, shown, withoutControls]
  | cons line rest induction =>
      have parts : (line ++ "\n" ++ ended rest).toList =
          line.toList ++ '\n' :: (ended rest).toList := by
        simp
      rw [ended_cons, List.map_cons, ended_cons, ← induction]
      simp only [shown, parts, withoutControls_append]
      apply String.toList_injective
      simp

theorem shown_of_plain {text : String} (plainText : plain text = true) : shown text = text := by
  rw [shown, withoutControls_of_notMem (notMem_of_plain plainText rfl), String.ofList_toList]

theorem map_shown_of_plain {lines : List String} (each : ∀ line ∈ lines, plain line = true) :
    lines.map shown = lines :=
  calc
    lines.map shown = lines.map id :=
      List.map_congr_left fun line member => shown_of_plain (each line member)
    _ = lines := List.map_id lines

end Text

open Text Listing Columns

namespace Command.Lister

variable {directory : Directory} {options : Options} {image : List UInt8} {start : Nat}

/-- The line of an item, with its bytes or without. -/
def itemLine (options : Options) (item : Item) : String :=
  if options.noBytes then item.shortLine else item.line

/-- Lines for the words of an image from an address on, as far as they are asked for. -/
structure Listed (options : Options) (count : Option Nat) (image : List UInt8) (start : Nat)
    (listed : List String) : Prop where
  number : listed.length = atMost count ((image.length + 1) / 2)
  unbroken : ∀ line ∈ listed, '\n' ∉ line.toList
  address : ∀ (place : Nat) (line : String), listed[place]? = some line →
    address? line.toList = some (start + 2 * place)
  walked : ∃ items, walk image options.count none start 0 [] = .ok items ∧
    listed = items.map (itemLine options)
  bytes : options.noBytes = false → (listed.mapM fun line => bytes? line.toList).map List.flatten =
    some (image.take (2 * listed.length))

theorem mem_items_of_mem_list {item : Item} {count : Option Int}
    (member : item ∈ list image start count none) : item ∈ items start image := by
  rw [list_eq_take] at member
  exact List.mem_of_mem_take member

theorem plain_itemLine {item : Item} {count : Option Int}
    (member : item ∈ list image start count none) : plain (itemLine options item) = true := by
  have parts := plain_of_mem_items (mem_items_of_mem_list member)
  unfold itemLine
  split
  · exact Item.plain_shortLine parts
  · exact Item.plain_line parts

theorem listed_list (options : Options) {count : Option Nat}
    (counted : options.count = count.map Int.ofNat) (image : List UInt8) (start : Nat) :
    Listed options count image start
      ((list image start options.count none).map (itemLine options)) where
  number := by rw [List.length_map, length_list, counted, quota_count]
  unbroken := by
    intro line member
    obtain ⟨item, listed, rfl⟩ := List.mem_map.1 member
    exact notMem_of_plain (plain_itemLine listed) rfl
  address := by
    intro place line found
    rw [List.getElem?_map, Option.map_eq_some_iff] at found
    obtain ⟨item, listed, rfl⟩ := found
    rw [list_eq_take, List.getElem?_take] at listed
    split at listed
    · obtain ⟨withBytes, short⟩ := address?_of_getElem? listed
      unfold itemLine
      split
      · exact short
      · exact withBytes
    · cases listed
  walked := ⟨_, walk_eq_list .., rfl⟩
  bytes := by
    intro withBytes
    have each : ((list image start options.count none).map (itemLine options)).map
        (fun line => bytes? line.toList) =
          ((list image start options.count none).map Item.bytes).map some := by
      rw [List.map_map, List.map_map]
      apply List.map_congr_left
      intro item member
      simp only [Function.comp, itemLine, withBytes]
      exact bytes?_of_mem (mem_items_of_mem_list member)
    rw [mapM_eq_some each, Option.map_some, ← List.flatMap_def, flatMap_bytes_list,
      List.length_map, length_list]

/-- What is written about an image of so many bytes. -/
def report (options : Options) (size start : Nat) (rows listed : List String) : String :=
  let dump := ["; Hex dump:", hexRule] ++ rows ++ [hexRule, ""]
  ended ([shown s!"; Disassembly of {options.image.name}", s!"; Size: {size} bytes",
      s!"; Base address: {dollar start}", ""] ++
    (if options.showHex then dump else []) ++ listed)

theorem plain_of_mem_hexDump {address : Int} {line : String}
    (member : line ∈ hexDump image address) : plain line = true := by
  rw [hexDump_eq, List.mem_append, List.mem_append] at member
  rcases member with (top | row) | bottom
  · rcases List.mem_pair.1 top with rfl | rfl
    · rfl
    · exact plain_hexRule
  · exact plain_of_mem_hexRows row
  · rcases List.mem_pair.1 bottom with rfl | rfl
    · exact plain_hexRule
    · rfl

theorem plain_of_mem_header {address : Int} {line : String}
    (member : line ∈ (header options image address).tail) : plain line = true := by
  change line ∈ [_, _, _] at member
  rw [List.mem_cons, List.mem_pair] at member
  rcases member with rfl | rfl | rfl
  · change plain ("; Size: " ++ toString image.length ++ " bytes") = true
    simp only [plain_append, plain_toString]
    rfl
  · change plain ("; Base address: " ++ dollar address) = true
    simp only [plain_append, plain_dollar]
    rfl
  · rfl

/-- Of all that is written about an image, only its name may have to be cleared. -/
theorem shown_lines (options : Options) (image : List UInt8) (start : Nat) :
    let items := list image start options.count none
    shown ("\n".intercalate (lines options image start items) ++ "\n") =
      report options image.length start (hexRows image start)
        (items.map (itemLine options)) := by
  intro items
  let others := (header options image start).tail ++
    (if options.showHex then hexDump image start else []) ++ items.map (itemLine options)
  have each : ∀ line ∈ others, plain line = true := by
    intro line member
    rcases List.mem_append.1 member with before | listed
    · rcases List.mem_append.1 before with top | row
      · exact plain_of_mem_header top
      · split at row
        · exact plain_of_mem_hexDump row
        · cases row
    · obtain ⟨item, known, rfl⟩ := List.mem_map.1 listed
      exact plain_itemLine known
  change shown ("\n".intercalate (s!"; Disassembly of {options.image.name}" :: others) ++ "\n") = _
  rw [intercalate_ended (List.cons_ne_nil _ others), shown_ended, List.map_cons,
    map_shown_of_plain each]
  rfl

theorem load_eq_ok {base : Int} (held : directory.Holds options.image (.bytes image))
    (nonempty : image ≠ []) (read : readAddress options.address = .ok base) :
    load options directory = .ok (base, image) := by
  have filled : image.isEmpty = false := List.isEmpty_eq_false_iff.2 nonempty
  rw [load, read, ok_bind, held.read, ok_bind, filled]
  rfl

theorem readAddress_misused {text : String} {fault : Fault}
    (failed : readAddress text = .error fault) : fault.kind.verdict = .misused := by
  unfold readAddress at failed
  split at failed
  · cases failed
    rfl
  · split at failed
    · cases failed
    · cases failed
      rfl

theorem load_misused (held : directory.Holds options.image (.bytes image))
    (unfit : image = [] ∨ ∀ base, readAddress options.address ≠ .ok base) :
    ∃ fault, load options directory = .error fault ∧ fault.kind.verdict = .misused := by
  cases read : readAddress options.address with
  | error fault =>
      refine ⟨fault, ?_, readAddress_misused read⟩
      rw [load, read]
      rfl
  | ok base =>
      have empty : image = [] := unfit.resolve_right fun none => none base read
      refine ⟨.emptyProgram options.image.text, ?_, rfl⟩
      rw [load, read, ok_bind, held.read, empty]
      rfl

/-- What comes of listing an image, for every image, every text of an address, every number of
words and every choice of what to show.

An image is listed whatever its bytes are; only one without any and a text that is no address are
refused.  The arguments that ask for the listing are taken up with exactly these options, however
they are spelled; the ones that give the number of words in its digits are such arguments.  Of the
library that takes them apart nothing is known but what it is relied on for. -/
theorem lister_exits {library : Library} (reads : library.Reads)
    (natural : ∀ few ∈ options.count, 0 ≤ few) (unwritten : options.output = none)
    (held : directory.Holds options.image (.bytes image)) :
    (∀ arguments line, Spelled lister.allSwitches arguments line → Asks line directory options →
      lister.answer library arguments directory = run options directory) ∧
    (∀ text, directory.Leads text options.image →
      (∀ few ∈ options.count, (toString few).length ≤ 4300) → options.verbose = false →
      lister.answer library (request options text).arguments directory = run options directory) ∧
    (image = [] ∨ (∀ base, readAddress options.address ≠ .ok base) →
      (run options directory).Exits 2 "" directory) ∧
    (image ≠ [] → ∀ base, readAddress options.address = .ok base →
      ∃ (start : Nat) (count : Option Nat) (rows listed : List String),
        base = start ∧ options.count = count.map Int.ofNat ∧
          (run options directory).Exits 0 (report options image.length start rows listed)
            directory ∧
          Dumped image start rows ∧ Listed options count image start listed) := by
  refine ⟨?_, ?_, ?_, ?_⟩
  · intro arguments line spelled asks
    exact answer_of_asks reads spelled asks unwritten
  · intro text leads short silent
    exact answer_of_asks reads spelled_request (asks_request natural short silent leads) unwritten
  · intro unfit
    obtain ⟨fault, failed, misused⟩ := load_misused held unfit
    simp only [run, failed, fail, misused]
    exact ⟨_, _, rfl, rfl⟩
  · intro nonempty base read
    obtain ⟨count, counted⟩ : ∃ count : Option Nat, options.count = count.map Int.ofNat := by
      cases given : options.count with
      | none => exact ⟨none, rfl⟩
      | some few =>
          have positive := natural few given
          exact ⟨some few.toNat, congrArg some (Int.toNat_of_nonneg positive).symm⟩
    obtain ⟨start, rfl⟩ := Int.eq_ofNat_of_zero_le (readAddress_eq_ok read).1
    have loaded := load_eq_ok held nonempty read
    refine ⟨start, count, _, _, rfl, counted, ?_, dumped_hexRows image start,
      listed_list options counted image start⟩
    rw [← shown_lines]
    simp only [run, loaded, disassemble_eq_list, unwritten]
    exact ⟨_, _, rfl, rfl⟩

/-- One word of three bytes is listed below the dump of all of them. -/
theorem lister_exits_on_three_bytes :
    let arguments := fun address : String => ["--hex", "-a", address, "-c", "1", "rom"]
    let directory := fun image : List UInt8 => Directory.ofFiles [("rom", image)]
    let image : List UInt8 := [0x00, 0xE0, 0x12]
    (lister.answer plainLibrary (arguments "$1F0") (directory [])).Exits 2 "" (directory []) ∧
      (lister.answer plainLibrary (arguments "0x10000") (directory image)).Exits 2 "" (directory image) ∧
      ∃ row line, (lister.answer plainLibrary (arguments "$1F0") (directory image)).Exits 0
          (ended ["; Disassembly of rom", "; Size: 3 bytes", "; Base address: $01F0", "",
            "; Hex dump:", hexRule, row, hexRule, "", line]) (directory image) ∧
        row? row.toList = some (0x1F0, image) ∧
        address? line.toList = some 0x1F0 ∧ bytes? line.toList = some [0x00, 0xE0] := by
  intro arguments directory image
  let line (address : String) : Line :=
    ⟨[(showHex, ""), (Lister.address, address), (count, "1")], ["rom"]⟩
  let options (address : String) : Options :=
    { image := ⟨.here, ["rom"]⟩
      output := none
      address
      count := some 1
      showHex := true
      noBytes := false
      verbose := false }
  have counted : Spelled lister.allSwitches ["-c", "1", "rom"] ⟨[(count, "1")], ["rom"]⟩ :=
    .valued (by decide) (.short rfl) rfl (.operand (by decide) .nothing)
  have placed (address : String) :
      Spelled lister.allSwitches ["-a", address, "-c", "1", "rom"]
        ⟨[(Lister.address, address), (count, "1")], ["rom"]⟩ :=
    .valued (by decide) (.short rfl) rfl counted
  have spelled (address : String) :
      Spelled lister.allSwitches (arguments address) (line address) :=
    @Spelled.flag _ showHex _ _ _ (by decide) .long rfl (placed address)
  have asks (address : String) (image : List UInt8) :
      Asks (line address) (directory image) (options address) :=
    { version := rfl
      help := rfl
      output := rfl
      image := ⟨"rom", rfl, (Directory.holds_rom image).2⟩
      address := rfl
      count := ⟨by decide, "1", rfl, rfl⟩
      showHex := rfl
      noBytes := rfl
      verbose := rfl }
  have exits (address : String) (image : List UInt8) :=
    @lister_exits (directory image) (options address) image plainLibrary plainLibrary_reads
      (by rintro few ⟨⟩; decide) rfl (Directory.holds_rom image).1
  have answer (address : String) (image : List UInt8) :
      lister.answer plainLibrary (arguments address) (directory image) =
        run (options address) (directory image) :=
    (exits address image).1 (arguments address) (line address) (spelled address)
      (asks address image)
  have far : ∀ base, readAddress "0x10000" ≠ .ok base := by
    intro base read
    cases read
  have near : readAddress "$1F0" = .ok 0x1F0 := rfl
  rw [answer, answer, answer]
  obtain ⟨-, -, empty, -⟩ := exits "$1F0" []
  obtain ⟨-, -, beyond, -⟩ := exits "0x10000" image
  obtain ⟨-, -, -, fits⟩ := exits "$1F0" image
  refine ⟨empty (.inl rfl), beyond (.inr far), ?_⟩
  obtain ⟨start, count, rows, listed, same, counted, exit, dumped, lines⟩ :=
    fits (List.cons_ne_nil _ _) 0x1F0 near
  obtain rfl : start = 0x1F0 := by omega
  obtain rfl : count = some 1 := by
    cases count with
    | none => cases counted
    | some few =>
        have one : (1 : Int) = few := Option.some.inj counted
        rw [show few = 1 by omega]
  obtain ⟨row, rfl⟩ := List.length_eq_one_iff.1 (dumped.number.trans (by decide))
  obtain ⟨line, rfl⟩ := List.length_eq_one_iff.1 (lines.number.trans (by decide))
  have named : (options "$1F0").image.name = "rom" := rfl
  have title {name : String} (same : name = "rom") :
      shown s!"; Disassembly of {name}" = "; Disassembly of rom" := by
    rw [same]
    exact shown_of_plain rfl
  have size : s!"; Size: {image.length} bytes" = "; Size: 3 bytes" := by decide
  have base : s!"; Base address: {dollar (0x1F0 : Nat)}" = "; Base address: $01F0" := by decide
  refine ⟨row, line, ?_, dumped.read 0 row rfl, lines.address 0 line rfl, ?_⟩
  · rw [report, title named, size, base] at exit
    exact exit
  · have bytes := lines.bytes rfl
    cases read : bytes? line.toList with
    | none => simp [read] at bytes
    | some first => simpa [read, image] using bytes

end Command.Lister

end ChipEight
