import ChipEight.Debugger.Call
import ChipEight.Proofs.Consulting
import ChipEight.Proofs.History
import ChipEight.Proofs.Result
import Mathlib.Data.List.Induction
import Mathlib.Data.List.Nodup

namespace ChipEight

/-! What a debugger lists after any series of calls.

Every call edits each of the three lists in one of four ways.  A word is listed if the last edit
about it has added it.  The number of a condition is how many were added before it, so the place
of one that is removed is not taken again.
-/

open Text

namespace Condition

variable {register operator description : String} {value : Int} {condition : Condition}

/-- The register, in any case, and the operator are among those there are. -/
def Known (register operator : String) : Prop :=
  lowercase register ∈ Watched.all.map Watched.name ∧
    operator ∈ Comparison.all.map Comparison.symbol

instance (register operator : String) : Decidable (Known register operator) :=
  inferInstanceAs (Decidable (_ ∧ _))

theorem ofText_eq_ok (read : ofText register operator value description = .ok condition) :
    Known register operator ∧ condition.watched.name = lowercase register ∧
      condition.comparison.symbol = operator ∧ condition.value = value := by
  unfold ofText at read
  cases watched : Watched.ofName? (lowercase register) with
  | none => simp only [watched, reduceCtorEq] at read
  | some target =>
      cases comparison : Comparison.ofSymbol? operator with
      | none => simp only [watched, comparison, reduceCtorEq] at read
      | some relation =>
          simp only [watched, comparison, Except.ok.injEq] at read
          have named : target.name = lowercase register := by
            simpa only [beq_iff_eq] using List.find?_some watched
          have written : relation.symbol = operator := by
            simpa only [beq_iff_eq] using List.find?_some comparison
          subst read
          refine ⟨⟨?_, ?_⟩, named, written, rfl⟩
          · exact List.mem_map.2 ⟨target, List.mem_of_find?_eq_some watched, named⟩
          · exact List.mem_map.2 ⟨relation, List.mem_of_find?_eq_some comparison, written⟩

theorem ofText_of_known (known : Known register operator) (value : Int) (description : String) :
    ∃ condition, ofText register operator value description = .ok condition := by
  obtain ⟨target, listed, named⟩ := List.mem_map.1 known.1
  obtain ⟨relation, defined, written⟩ := List.mem_map.1 known.2
  have found : (Watched.ofName? (lowercase register)).isSome :=
    List.find?_isSome.2 ⟨target, listed, by simpa only [beq_iff_eq] using named⟩
  have chosen : (Comparison.ofSymbol? operator).isSome :=
    List.find?_isSome.2 ⟨relation, defined, by simpa only [beq_iff_eq] using written⟩
  obtain ⟨watched, found⟩ := Option.isSome_iff_exists.1 found
  obtain ⟨comparison, chosen⟩ := Option.isSome_iff_exists.1 chosen
  exact ⟨_, by simp only [ofText, found, chosen]; rfl⟩

example : Watched.all.map Watched.name =
    ["i", "pc", "delay_timer", "sound_timer", "sp", "v0", "v1", "v2", "v3", "v4", "v5", "v6", "v7",
      "v8", "v9", "va", "vb", "vc", "vd", "ve", "vf"] := by
  decide

end Condition

namespace Debugger

/-- What a call does to one of the lists. -/
inductive Edit (Entry : Type) where
  | keep
  | add (entry : Entry)
  | remove (number : Int)
  | clear
deriving DecidableEq

namespace Edit

variable {word value : Int} {values : List Int} {number : Nat} {condition : Condition}
  {entries : List (Option Condition)} {edit : Edit Condition} {edits : List (Edit Condition)}

def onWords (values : List Int) : Edit Int → List Int
  | .keep => values
  | .add value => insertAscending (Bits.lowWord value) values
  | .remove value => values.filter (· != Bits.lowWord value)
  | .clear => []

def onConditions (entries : List (Option Condition)) : Edit Condition → List (Option Condition)
  | .keep => entries
  | .add condition => entries ++ [some condition]
  | .remove number => if 0 ≤ number then entries.set number.toNat none else entries
  | .clear => []

/-- Whether a word is listed after an edit, if the edit is about it. -/
def lists? (word : Int) : Edit Int → Option Bool
  | .keep => none
  | .add value => if value % 65536 = word then some true else none
  | .remove value => if value % 65536 = word then some false else none
  | .clear => some false

def adds : Edit Condition → Bool
  | .add _ => true
  | _ => false

/-- How many conditions are added after the last clearing. -/
def added (edits : List (Edit Condition)) : Nat :=
  (edits.reverse.takeWhile (· ≠ .clear)).countP adds

/-- A condition is added under a number and not taken away any more. -/
def Leaves (edits : List (Edit Condition)) (number : Nat) (condition : Condition) : Prop :=
  ∃ before after, edits = before ++ .add condition :: after ∧ added before = number ∧
    ∀ later ∈ after, later ≠ .clear ∧ later ≠ .remove number

/-! ### Words -/

theorem mem_onWords (edit : Edit Int) :
    decide (word ∈ edit.onWords values) = (edit.lists? word).getD (decide (word ∈ values)) := by
  cases edit with
  | keep => rfl
  | clear => exact decide_eq_false List.not_mem_nil
  | add value =>
      simp only [onWords, lists?, mem_insertAscending, Bits.lowWord]
      by_cases same : value % 65536 = word
      · simp only [same, true_or, decide_true, if_true, Option.getD_some]
      · simp only [Ne.symm same, same, false_or, if_false, Option.getD_none]
  | remove value =>
      simp only [onWords, lists?, List.mem_filter, bne_iff_ne, Bits.lowWord]
      by_cases same : value % 65536 = word
      · simp only [same, ne_eq, not_true_eq_false, and_false, decide_false, if_true,
          Option.getD_some]
      · simp only [Ne.symm same, same, ne_eq, not_false_eq_true, and_true, if_false,
          Option.getD_none]

theorem pairwise_onWords (ascending : values.Pairwise (· < ·)) (edit : Edit Int) :
    (edit.onWords values).Pairwise (· < ·) := by
  cases edit with
  | keep => exact ascending
  | add value => exact pairwise_insertAscending ascending
  | remove value => exact ascending.filter _
  | clear => exact List.Pairwise.nil

theorem mem_words (edits : List (Edit Int)) :
    word ∈ edits.foldl onWords [] ↔ latest? (lists? word) edits = some true := by
  have seen : decide (word ∈ edits.foldl onWords []) =
      (latest? (lists? word) edits).getD (decide (word ∈ ([] : List Int))) :=
    foldl_latest (fun _ => True) (fun values => decide (word ∈ values)) (fun _ _ _ => trivial)
      (fun _ edit _ => mem_onWords edit) edits trivial
  rw [← decide_eq_true_iff (p := word ∈ edits.foldl onWords []), seen]
  cases latest? (lists? word) edits <;> simp

theorem pairwise_words (edits : List (Edit Int)) :
    (edits.foldl onWords []).Pairwise (· < ·) := by
  induction edits using List.reverseRecOn with
  | nil => exact List.Pairwise.nil
  | append_singleton before last induction =>
      rw [List.foldl_concat]
      exact pairwise_onWords induction last

theorem range_of_lists? {edit : Edit Int} (listed : edit.lists? word = some true) :
    0 ≤ word ∧ word < 65536 := by
  cases edit with
  | keep => cases listed
  | clear => cases listed
  | remove value =>
      rw [lists?] at listed
      split at listed <;> cases listed
  | add value =>
      rw [lists?] at listed
      split at listed
      · next same => omega
      · cases listed

/-- As many words are listed as there are words whose last edit adds them. -/
theorem length_words (edits : List (Edit Int)) :
    (edits.foldl onWords []).length =
      (List.range 65536).countP fun word : Nat => latest? (lists? word) edits = some true := by
  have same : (edits.foldl onWords []).Perm
      (((List.range 65536).filter fun word : Nat => latest? (lists? word) edits = some true).map
        Int.ofNat) := by
    rw [List.perm_ext_iff_of_nodup]
    · intro word
      simp only [mem_words, List.mem_map, List.mem_filter, List.mem_range, decide_eq_true_eq]
      constructor
      · intro listed
        obtain ⟨edit, -, last⟩ := latest?_eq_some listed
        obtain ⟨low, high⟩ := range_of_lists? last
        obtain ⟨word, rfl⟩ := Int.eq_ofNat_of_zero_le low
        exact ⟨word, ⟨by omega, listed⟩, rfl⟩
      · rintro ⟨word, ⟨-, listed⟩, rfl⟩
        exact listed
    · exact (pairwise_words edits).imp (fun below => Int.ne_of_lt below)
    · exact List.Nodup.map (fun _ _ => Int.ofNat.inj) (List.nodup_range.filter _)
  rw [same.length_eq, List.length_map, List.countP_eq_length_filter]

/-! ### Conditions -/

theorem added_concat (edits : List (Edit Condition)) (edit : Edit Condition) :
    added (edits ++ [edit]) =
      if edit = .clear then 0 else added edits + if edit.adds then 1 else 0 := by
  rw [added, List.reverse_concat, List.takeWhile_cons]
  by_cases clears : edit = .clear
  · simp only [clears, ne_eq, not_true_eq_false, decide_false, Bool.false_eq_true, if_false,
      if_true, List.countP_nil]
  · simp only [clears, ne_eq, not_false_eq_true, decide_true, if_true, if_false, List.countP_cons]
    rfl

theorem length_conditions (edits : List (Edit Condition)) :
    (edits.foldl onConditions []).length = added edits := by
  induction edits using List.reverseRecOn with
  | nil => rfl
  | append_singleton before last induction =>
      rw [List.foldl_concat, added_concat, ← induction]
      cases last with
      | keep => rfl
      | add condition => exact List.length_append
      | clear => rfl
      | remove number =>
          rw [onConditions]
          split
          · exact List.length_set
          · rfl

theorem getElem?_onConditions :
    (edit.onConditions entries)[number]? = some (some condition) ↔
      (edit = .add condition ∧ entries.length = number) ∨
        (entries[number]? = some (some condition) ∧ edit ≠ .clear ∧ edit ≠ .remove number) := by
  cases edit with
  | keep => simp [onConditions]
  | clear => simp [onConditions]
  | add other =>
      simp only [onConditions, List.getElem?_append, List.getElem?_singleton]
      by_cases inside : number < entries.length
      · grind
      · grind
  | remove target =>
      simp only [onConditions]
      split
      · grind
      · grind

theorem leaves_concat :
    Leaves (edits ++ [edit]) number condition ↔
      (edit = .add condition ∧ added edits = number) ∨
        (Leaves edits number condition ∧ edit ≠ .clear ∧ edit ≠ .remove number) := by
  constructor
  · rintro ⟨before, after, same, given, left⟩
    rcases List.eq_nil_or_concat after with rfl | ⟨middle, last, rfl⟩
    · obtain ⟨rfl, equal⟩ := List.append_inj' same rfl
      cases equal
      exact .inl ⟨rfl, given⟩
    · rw [List.concat_eq_append, ← List.cons_append, ← List.append_assoc] at same
      obtain ⟨rfl, equal⟩ := List.append_inj' same rfl
      cases equal
      rw [List.concat_eq_append] at left
      refine .inr ⟨⟨before, middle, rfl, given, ?_⟩, left edit (by simp)⟩
      exact fun later member => left later (List.mem_append_left _ member)
  · rintro (⟨rfl, given⟩ | ⟨⟨before, after, rfl, given, left⟩, stays⟩)
    · exact ⟨edits, [], rfl, given, fun _ member => absurd member List.not_mem_nil⟩
    · refine ⟨before, after ++ [edit], by simp, given, fun later member => ?_⟩
      rcases List.mem_append.1 member with earlier | last
      · exact left later earlier
      · cases List.mem_singleton.1 last
        exact stays

theorem conditions_leaves (edits : List (Edit Condition)) :
    (edits.foldl onConditions [])[number]? = some (some condition) ↔
      Leaves edits number condition := by
  induction edits using List.reverseRecOn with
  | nil => simp [Leaves]
  | append_singleton before last induction =>
      rw [List.foldl_concat, getElem?_onConditions, leaves_concat, length_conditions, induction]

/-- A number is not given again before the conditions are cleared. -/
theorem added_lt (before after : List (Edit Condition)) (keeps : ∀ later ∈ after, later ≠ .clear) :
    added before < added (before ++ .add condition :: after) := by
  induction after using List.reverseRecOn with
  | nil =>
      rw [added_concat, if_neg (by simp)]
      exact Nat.lt_succ_self _
  | append_singleton middle last induction =>
      rw [← List.cons_append, ← List.append_assoc, added_concat, if_neg (keeps last (by simp))]
      have earlier := induction fun later member => keeps later (List.mem_append_left _ member)
      exact Nat.lt_of_lt_of_le earlier (Nat.le_add_right _ _)

/-- A list is in order and has the words whose last edit adds them. -/
structure Words (values : List Int) (edits : List (Edit Int)) : Prop where
  ascending : values.Pairwise (· < ·)
  mem_iff : ∀ word, word ∈ values ↔ latest? (lists? word) edits = some true
  count : values.length =
    (List.range 65536).countP fun word : Nat => latest? (lists? word) edits = some true

theorem words_edited (edits : List (Edit Int)) : Words (edits.foldl onWords []) edits where
  ascending := pairwise_words edits
  mem_iff := fun _ => mem_words edits
  count := length_words edits

end Edit

namespace Call

def onAddresses : Call → Edit Int
  | .change (.addAddress address) => .add address
  | .change (.removeAddress address) => .remove address
  | .change .clearAddresses | .change .clear => .clear
  | _ => .keep

def onOpcodes : Call → Edit Int
  | .change (.addOpcode opcode) => .add opcode
  | .change (.removeOpcode opcode) => .remove opcode
  | .change .clear => .clear
  | _ => .keep

/-- A condition that is refused leaves the list as it is. -/
def onConditions : Call → Edit Condition
  | .add condition => .add condition
  | .change (.addCondition register operator value description) =>
      match Condition.ofText register operator value description with
      | .ok condition => .add condition
      | .error _ => .keep
  | .change (.removeCondition number) => .remove number
  | .change .clearConditions | .change .clear => .clear
  | _ => .keep

end Call

variable {debugger : Debugger} {condition : Condition} {number : Nat}

/-- The three lists after a call. -/
structure Edited (debugger : Debugger) (call : Call) (after : Debugger) : Prop where
  addresses : after.addresses = call.onAddresses.onWords debugger.addresses
  opcodes : after.opcodes = call.onOpcodes.onWords debugger.opcodes
  conditions : after.conditions = call.onConditions.onConditions debugger.conditions

theorem consult_edited {machine : Machine} {pc opcode : Int} {stop : Option Event}
    {asked : Debugger} (answered : debugger.consult machine pc opcode = .ok (stop, asked)) :
    debugger.Edited (.consult machine pc opcode) asked := by
  cases stop with
  | none =>
      cases consult_unchanged answered
      exact ⟨rfl, rfl, rfl⟩
  | some event =>
      obtain ⟨left, cause, -, -, rfl⟩ := consult_cause answered
      cases cause.left_eq
      exact ⟨rfl, rfl, rfl⟩

theorem call_edited (debugger : Debugger) (call : Call) :
    debugger.Edited call (debugger.call call) := by
  cases call with
  | add condition => exact ⟨rfl, rfl, rfl⟩
  | consult machine pc opcode =>
      cases answer : debugger.consult machine pc opcode with
      | error fault =>
          simp only [Debugger.call, answer, Functor.map, Except.map, Outcome.settle]
          exact ⟨rfl, rfl, rfl⟩
      | ok answered =>
          simp only [Debugger.call, answer, Functor.map, Except.map, Outcome.settle]
          exact consult_edited answer
  | change change =>
      cases change with
      | addCondition register operator value description =>
          simp only [Debugger.call, Debugger.change]
          cases read : Condition.ofText register operator value description with
          | error fault => exact ⟨rfl, rfl, by simp only [Call.onConditions, read]; rfl⟩
          | ok condition => exact ⟨rfl, rfl, by simp only [Call.onConditions, read]; rfl⟩
      | removeCondition number =>
          simp only [Debugger.call, Debugger.change, Outcome.settle, removeCondition]
          split
          · next low => exact ⟨rfl, rfl, (if_pos low).symm⟩
          · next negative => exact ⟨rfl, rfl, (if_neg negative).symm⟩
      | _ => exact ⟨rfl, rfl, rfl⟩

theorem addresses_calls (series : List Call) :
    (debugger.calls series).addresses =
      (series.map Call.onAddresses).foldl Edit.onWords debugger.addresses := by
  rw [List.foldl_map]
  apply Eq.symm
  exact List.foldl_hom addresses fun debugger call => (debugger.call_edited call).addresses.symm

theorem opcodes_calls (series : List Call) :
    (debugger.calls series).opcodes =
      (series.map Call.onOpcodes).foldl Edit.onWords debugger.opcodes := by
  rw [List.foldl_map]
  apply Eq.symm
  exact List.foldl_hom opcodes fun debugger call => (debugger.call_edited call).opcodes.symm

theorem conditions_calls (series : List Call) :
    (debugger.calls series).conditions =
      (series.map Call.onConditions).foldl Edit.onConditions debugger.conditions := by
  rw [List.foldl_map]
  apply Eq.symm
  exact List.foldl_hom conditions fun debugger call => (debugger.call_edited call).conditions.symm

theorem calls_concat (series : List Call) (call : Call) :
    debugger.calls (series ++ [call]) = (debugger.calls series).call call :=
  List.foldl_concat ..

theorem mem_listConditions :
    (number, condition) ∈ debugger.listConditions ↔
      debugger.conditions[number]? = some (some condition) := by
  simp only [listConditions, List.mem_filterMap, id_eq, exists_eq_right, List.mem_mapIdx,
    Option.map_eq_some_iff, Prod.mk.injEq, List.getElem?_eq_some_iff]
  grind

theorem listConditions_ascending (debugger : Debugger) :
    debugger.listConditions.Pairwise fun first second => first.1 < second.1 := by
  rw [listConditions, List.pairwise_filterMap, List.pairwise_iff_getElem]
  intro first second _ _ before one found other next
  simp only [List.getElem_mapIdx, id_eq, Option.map_eq_some_iff] at found next
  obtain ⟨_, -, rfl⟩ := found
  obtain ⟨_, -, rfl⟩ := next
  exact before

/-- An empty place and a number that is out of bounds are left as they are. -/
theorem removeCondition_absent {number : Int}
    (absent : ∀ entry ∈ debugger.listConditions, (entry.1 : Int) ≠ number) :
    debugger.removeCondition number = debugger := by
  rw [removeCondition]
  split
  · next low =>
    obtain ⟨place, rfl⟩ := Int.eq_ofNat_of_zero_le low
    have same : debugger.conditions.set place none = debugger.conditions := by
      apply List.ext_getElem?
      intro position
      by_cases here : place = position
      · subst here
        rw [List.getElem?_set_self']
        cases held : debugger.conditions[place]? with
        | none => rfl
        | some entry =>
            cases entry with
            | none => rfl
            | some condition => exact absurd rfl (absent _ (mem_listConditions.2 held))
      · exact List.getElem?_set_ne here
    rw [Int.toNat_natCast, same]
  · rfl

theorem change_unknown {register operator description : String} {value : Int}
    (unknown : ¬ Condition.Known register operator) :
    ∃ fault,
      debugger.change (.addCondition register operator value description) = .error fault := by
  cases read : Condition.ofText register operator value description with
  | ok condition => exact absurd (Condition.ofText_eq_ok read).1 unknown
  | error fault => exact ⟨fault, by simp only [change, read, error_bind]⟩

theorem call_refused {change : Change} {fault : Fault}
    (refused : debugger.change change = .error fault) :
    debugger.call (.change change) = debugger := by
  rw [call, refused]
  rfl

/-- The lists of a debugger say what its calls amount to.

A word is on a list if the last call about it put it there.  A condition stays under the number it
was added under, and that number is not used again before all conditions are cleared.  Calls that
fail, and calls about a number that is not there, change nothing. -/
theorem lists_follow_calls (series : List Call) :
    let debugger := ({} : Debugger).calls series
    let addressEdits := series.map Call.onAddresses
    let opcodeEdits := series.map Call.onOpcodes
    let conditionEdits := series.map Call.onConditions
    Edit.Words debugger.addresses addressEdits ∧
    (∀ address, debugger.hasAddress address = true ↔ address % 65536 ∈ debugger.addresses) ∧
    Edit.Words debugger.opcodes opcodeEdits ∧
    ((∀ condition, (debugger.addCondition condition).1 = Edit.added conditionEdits) ∧
      (∀ before condition after, conditionEdits = before ++ .add condition :: after →
        (∀ later ∈ after, later ≠ .clear) → Edit.added before < Edit.added conditionEdits) ∧
      (debugger.listConditions.Pairwise fun first second => first.1 < second.1) ∧
      ∀ number condition, (number, condition) ∈ debugger.listConditions ↔
        Edit.Leaves conditionEdits number condition) ∧
    (∀ register operator value description,
      (Condition.Known register operator →
        ∃ condition, Condition.ofText register operator value description = .ok condition ∧
          condition.watched.name = lowercase register ∧ condition.comparison.symbol = operator ∧
          condition.value = value) ∧
      (¬ Condition.Known register operator →
        (∃ fault,
          debugger.change (.addCondition register operator value description) = .error fault) ∧
        ({} : Debugger).calls
          (series ++ [.change (.addCondition register operator value description)]) = debugger)) ∧
    ∀ number : Int, (∀ entry ∈ debugger.listConditions, (entry.1 : Int) ≠ number) →
      ({} : Debugger).calls (series ++ [.change (.removeCondition number)]) = debugger := by
  intro debugger addressEdits opcodeEdits conditionEdits
  have listed : debugger.addresses = addressEdits.foldl Edit.onWords [] := addresses_calls series
  have stopped : debugger.opcodes = opcodeEdits.foldl Edit.onWords [] := opcodes_calls series
  have kept : debugger.conditions = conditionEdits.foldl Edit.onConditions [] :=
    conditions_calls series
  refine ⟨?_, fun address => List.contains_iff_mem, ?_, ⟨?_, ?_, ?_, ?_⟩, ?_, ?_⟩
  · rw [listed]
    exact Edit.words_edited addressEdits
  · rw [stopped]
    exact Edit.words_edited opcodeEdits
  · intro condition
    rw [addCondition, kept]
    exact Edit.length_conditions conditionEdits
  · intro before condition after same keeps
    rw [same]
    exact Edit.added_lt before after keeps
  · exact debugger.listConditions_ascending
  · intro number condition
    rw [mem_listConditions, kept]
    exact Edit.conditions_leaves conditionEdits
  · intro register operator value description
    constructor
    · intro known
      obtain ⟨condition, read⟩ := Condition.ofText_of_known known value description
      exact ⟨condition, read, (Condition.ofText_eq_ok read).2⟩
    · intro unknown
      obtain ⟨fault, refused⟩ := change_unknown unknown
      refine ⟨⟨fault, refused⟩, ?_⟩
      rw [calls_concat]
      exact call_refused refused
  · intro number absent
    rw [calls_concat]
    exact removeCondition_absent absent

/-- The second condition keeps its number when the first is gone, and the third gets a new one. -/
theorem removed_numbers_stay_empty :
    let first : Condition := ⟨.register 0, .equal, 3, "first"⟩
    let second : Condition := ⟨.index, .less, 0x300, "second"⟩
    let series : List Call := [.add first, .add second, .change (.removeCondition 0)]
    let debugger := ({} : Debugger).calls series
    (debugger.addCondition first).1 = 2 ∧
      Edit.added [.add first] < Edit.added (series.map Call.onConditions) ∧
      (Condition.Known "V3" "==" ∧
        ∃ condition, Condition.ofText "V3" "==" 7 "" = .ok condition ∧
          condition.watched.name = lowercase "V3") ∧
      (¬ Condition.Known "vg" "==" ∧
        ({} : Debugger).calls (series ++ [.change (.addCondition "vg" "==" 7 "")]) = debugger) ∧
      (debugger.listConditions = [(1, second)] ∧
        ({} : Debugger).calls (series ++ [.change (.removeCondition 0)]) = debugger) := by
  intro first second series debugger
  obtain ⟨-, -, -, ⟨numbers, fresh, -, -⟩, known, absent⟩ := lists_follow_calls series
  have later : ∀ edit ∈ [Edit.remove 0], edit ≠ (.clear : Edit Condition) := by decide
  have spelled : Condition.Known "V3" "==" := by decide
  have misspelled : ¬ Condition.Known "vg" "==" := by decide
  have left : debugger.listConditions = [(1, second)] := by decide
  obtain ⟨condition, read, named, -⟩ := (known "V3" "==" 7 "").1 spelled
  refine ⟨numbers first, ?_, ⟨spelled, condition, read, named⟩, ⟨misspelled, ?_⟩, left, ?_⟩
  · exact fresh [.add first] second [.remove 0] rfl later
  · exact ((known "vg" "==" 7 "").2 misspelled).2
  · apply absent
    intro entry member
    rw [left, List.mem_singleton] at member
    subst member
    decide

end Debugger

end ChipEight
