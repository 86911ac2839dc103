import ChipEight.Proofs.Numerals
import ChipEight.Proofs.Wording
import ChipEight.Text.Terminal

namespace ChipEight

/-! Texts of nothing but printable ASCII.

Whatever a listing puts together is such a text: there is no line end in it, and nothing that a
terminal would take for more than it is.
-/

namespace Text

variable {base width : Nat}

def printed (c : Char) : Bool := ' ' ≤ c && c ≤ '~'

def plain (text : String) : Bool := text.toList.all printed

@[simp] theorem plain_append (front back : String) :
    plain (front ++ back) = (plain front && plain back) := by
  simp [plain]

@[simp] theorem plain_ofList (text : List Char) : plain (String.ofList text) = text.all printed := by
  rw [plain, String.toList_ofList]

theorem notMem_of_plain {text : String} {c : Char} (plainText : plain text = true)
    (strange : printed c = false) : c ∉ text.toList := by
  intro member
  have known := List.all_eq_true.1 plainText c member
  rw [strange] at known
  cases known

/-- What holds of every digit holds of every character of a numeral. -/
theorem of_mem_toDigits {P : Char → Prop} (several : 1 < base)
    (digits : ∀ digit < base, P (Nat.digitChar digit)) (n : Nat) :
    ∀ c ∈ Nat.toDigits base n, P c := by
  induction n using Nat.strongRecOn with
  | ind n induction =>
      intro c member
      by_cases small : n < base
      · rw [Nat.toDigits_of_lt_base small, List.mem_singleton] at member
        exact member ▸ digits n small
      · have larger : base ≤ n := Nat.not_lt.1 small
        rw [Nat.toDigits_of_base_le several larger, List.mem_append, List.mem_singleton] at member
        rcases member with before | rfl
        · exact induction _ (Nat.div_lt_self (by omega) several) c before
        · exact digits _ (Nat.mod_lt n (by omega))

theorem printed_hexDigits (n : Nat) : ∀ c ∈ hexDigits n, printed c = true := by
  intro c member
  obtain ⟨digit, found, rfl⟩ := List.mem_map.1 member
  have all : ∀ digit : Fin 16, printed (Nat.digitChar digit.val).toUpper = true := by decide
  exact of_mem_toDigits (P := fun c => printed c.toUpper = true) (by decide)
    (fun digit small => all ⟨digit, small⟩) n digit found

theorem printed_leftpad {digits : List Char} (printedDigits : ∀ c ∈ digits, printed c = true) :
    ∀ c ∈ List.leftpad width '0' digits, printed c = true := by
  intro c member
  rcases List.mem_append.1 member with zero | digit
  · rw [List.eq_of_mem_replicate zero]
    decide
  · exact printedDigits c digit

@[simp] theorem plain_hex (width : Nat) (value : Int) : plain (hex width value) = true := by
  have digits := printed_hexDigits value.natAbs
  unfold hex
  split
  · rw [plain_ofList, List.all_cons, Bool.and_eq_true, List.all_eq_true]
    exact ⟨by decide, printed_leftpad digits⟩
  · rw [plain_ofList, List.all_eq_true]
    exact printed_leftpad digits

@[simp] theorem plain_hexByte (byte : UInt8) : plain (hexByte byte) = true := plain_hex ..

@[simp] theorem plain_dollar (value : Int) : plain (dollar value) = true := by
  rw [dollar, plain_append, plain_hex]
  rfl

theorem printed_toDigits (n : Nat) : ∀ c ∈ Nat.toDigits 10 n, printed c = true := by
  have all : ∀ digit : Fin 10, printed (Nat.digitChar digit.val) = true := by decide
  exact of_mem_toDigits (by decide) (fun digit small => all ⟨digit, small⟩) n

@[simp] theorem plain_toString (n : Nat) : plain (toString n) = true := by
  rw [Nat.toString_eq_ofList_toDigits, plain_ofList, List.all_eq_true]
  exact printed_toDigits n

@[simp] theorem plain_decimal (width n : Nat) : plain (decimal width n) = true := by
  rw [decimal, plain_ofList, List.all_eq_true]
  exact printed_leftpad (printed_toDigits n)

@[simp] theorem plain_padRight (width : Nat) (text : String) :
    plain (padRight width text) = plain text := by
  have blanks : (List.replicate (width - text.length) ' ').all printed = true := by
    rw [List.all_eq_true]
    intro c member
    rw [List.eq_of_mem_replicate member]
    decide
  rw [padRight, plain_append, plain_ofList, blanks, Bool.and_true]

theorem plain_intercalate {separator : String} {texts : List String}
    (between : plain separator = true) (each : ∀ text ∈ texts, plain text = true) :
    plain (separator.intercalate texts) = true := by
  induction texts with
  | nil => simp [plain]
  | cons first rest induction =>
      have others := induction fun text member => each text (List.mem_cons_of_mem _ member)
      have here := each first List.mem_cons_self
      cases rest with
      | nil => simpa using here
      | cons second rest =>
          rw [String.intercalate_cons_cons]
          simp [here, between, others]

end Text

open Text

/-- A wording of which each part is plain. -/
structure Wording.Plain (wording : Wording) : Prop where
  mnemonic : plain wording.mnemonic = true
  operands : plain wording.operands = true
  comment : plain wording.comment = true

theorem Wording.Plain.ofParts {mnemonic operands comment : String} (first : plain mnemonic = true)
    (second : plain operands = true) (third : plain comment = true) :
    Wording.Plain ⟨mnemonic, operands, comment⟩ := ⟨first, second, third⟩

theorem Wording.Plain.text {wording : Wording} (parts : wording.Plain) :
    plain wording.text = true := by
  unfold Wording.text
  split
  · exact parts.mnemonic
  · simp only [plain_append, parts.mnemonic, parts.operands]
    rfl

namespace Instruction

theorem plain_targetText (target : Target) : plain (targetText target) = true := by
  rw [targetText, plain_append, plain_hex]
  rfl

theorem plain_withByte (x : Nibble) (byte : UInt8) : plain (withByte x byte) = true := by
  change plain ("V" ++ hex 1 x.val ++ ", $" ++ hexByte byte) = true
  simp only [plain_append, plain_hex, plain_hexByte]
  rfl

theorem plain_withRegister (x y : Nibble) : plain (withRegister x y) = true := by
  change plain ("V" ++ hex 1 x.val ++ ", " ++ ("V" ++ hex 1 y.val)) = true
  simp only [plain_append, plain_hex]
  rfl

theorem plain_glyphComment (target : Target) : plain (glyphComment target) = true := by
  unfold glyphComment
  split
  · rw [plain_append, plain_hex]
    rfl
  · rfl

theorem plain_wording (instruction : Instruction) (address : Int) :
    (instruction.wording address).Plain := by
  cases instruction with
  | clear | ret => exact .ofParts rfl rfl rfl
  | jump target =>
      refine .ofParts rfl (plain_targetText target) ?_
      split <;> rfl
  | call target => exact .ofParts rfl (plain_targetText target) rfl
  | skipIfByte x byte | skipUnlessByte x byte | load x byte | add x byte =>
      exact .ofParts rfl (plain_withByte x byte) rfl
  | skipIfSame x y | skipUnlessSame x y => exact .ofParts rfl (plain_withRegister x y) rfl
  | operate operation x y =>
      refine .ofParts ?_ (plain_withRegister x y) rfl
      cases operation <;> rfl
  | point target =>
      refine .ofParts rfl ?_ (plain_glyphComment target)
      rw [plain_append, plain_targetText]
      rfl
  | draw x y rows =>
      refine .ofParts rfl ?_ rfl
      change plain (withRegister x y ++ (", " ++ toString rows.val)) = true
      simp only [plain_append, plain_withRegister, plain_toString]
      rfl

end Instruction

namespace Listing

theorem Item.plain_ofPair (address : Int) (high low : UInt8) :
    (Item.ofPair address high low).wording.Plain := by
  unfold ofPair
  dsimp only
  split
  · exact Instruction.plain_wording ..
  · exact .ofParts rfl (plain_dollar _) rfl

theorem Item.plain_ofByte (address : Int) (byte : UInt8) :
    (Item.ofByte address byte).wording.Plain := by
  refine .ofParts rfl ?_ rfl
  rw [plain_append, plain_hexByte]
  rfl

/-- The bytes of an item or of a row, with a blank between them. -/
def hexColumn (bytes : List UInt8) : String := " ".intercalate (bytes.map hexByte)

theorem plain_hexColumn (bytes : List UInt8) : plain (hexColumn bytes) = true := by
  refine plain_intercalate rfl fun text member => ?_
  obtain ⟨byte, -, rfl⟩ := List.mem_map.1 member
  exact plain_hexByte byte

theorem Item.line_eq (item : Item) :
    ∃ rest, item.line =
        dollar item.address ++ (": " ++ (padRight 5 (hexColumn item.bytes) ++ ("  " ++ rest))) ∧
      (item.wording.Plain → plain rest = true) := by
  unfold line
  dsimp only
  split
  · refine ⟨item.text, ?_, fun parts => parts.text⟩
    simp only [String.append_assoc]
    rfl
  · refine ⟨padRight 16 item.text ++ (" ; " ++ item.wording.comment), ?_, fun parts => ?_⟩
    · simp only [String.append_assoc]
      rfl
    · simp only [plain_append, plain_padRight, parts.comment, Item.text, parts.text]
      rfl

theorem Item.shortLine_eq (item : Item) :
    ∃ rest, item.shortLine = dollar item.address ++ (": " ++ rest) ∧
      (item.wording.Plain → plain rest = true) := by
  unfold shortLine
  split
  · refine ⟨item.text, ?_, fun parts => parts.text⟩
    simp only [String.append_assoc]
    rfl
  · refine ⟨item.text ++ ("  ; " ++ item.wording.comment), ?_, fun parts => ?_⟩
    · simp only [String.append_assoc]
      rfl
    · simp only [plain_append, parts.comment, Item.text, parts.text]
      rfl

theorem Item.plain_line {item : Item} (parts : item.wording.Plain) : plain item.line = true := by
  obtain ⟨rest, line, plainRest⟩ := item.line_eq
  simp only [line, plain_append, plain_dollar, plain_padRight, plain_hexColumn, plainRest parts]
  rfl

theorem Item.plain_shortLine {item : Item} (parts : item.wording.Plain) :
    plain item.shortLine = true := by
  obtain ⟨rest, line, plainRest⟩ := item.shortLine_eq
  simp only [line, plain_append, plain_dollar, plainRest parts]
  rfl

theorem plain_of_mem_items {address : Int} {image : List UInt8} {item : Item}
    (listed : item ∈ items address image) : item.wording.Plain := by
  fun_induction items address image with
  | case1 address high low rest induction =>
      rcases List.mem_cons.1 listed with rfl | later
      · exact Item.plain_ofPair ..
      · exact induction later
  | case2 address byte =>
      rw [List.mem_singleton.1 listed]
      exact Item.plain_ofByte ..
  | case3 address => cases listed

end Listing

end ChipEight
