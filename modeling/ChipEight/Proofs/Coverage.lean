import ChipEight.Proofs.ListingAgreement

namespace ChipEight.Listing

/-! Which bytes of an image a listing covers.

Each item stands for the bytes at twice its place, so that the first items of a listing cover the
first bytes of the image.  Both bounds of a listing come down to a number of items.
-/

variable {start : Int} {image : List UInt8}

/-- The number that bytes spell, the highest first. -/
def bigEndian (bytes : List UInt8) : Nat :=
  bytes.foldl (fun number byte => number * 0x100 + byte.toNat) 0

/-- The item that shows one or two bytes. -/
def Item.ofPiece? (address : Int) : List UInt8 → Option Item
  | [high, low] => some (.ofPair address high low)
  | [byte] => some (.ofByte address byte)
  | _ => none

theorem Item.ofPiece?_eq_some {address : Int} {piece : List UInt8} {item : Item}
    (shown : Item.ofPiece? address piece = some item) :
    item.address = address ∧ item.bytes = piece ∧ item.opcode = bigEndian piece ∧
      (item.size = 2 ∨ item.size = 1 ∧ item.wording.mnemonic = ".BYTE") := by
  unfold ofPiece? at shown
  split at shown
  · next high low =>
    cases shown
    exact ⟨rfl, rfl, by simp [bigEndian, ofPair, Word.ofBytes], .inl rfl⟩
  · next byte =>
    cases shown
    exact ⟨rfl, rfl, by simp [bigEndian, ofByte], .inr ⟨rfl, rfl⟩⟩
  · cases shown

theorem getElem?_items (start : Int) (image : List UInt8) (place : Nat) :
    (items start image)[place]? =
      Item.ofPiece? (start + 2 * place) ((image.drop (2 * place)).take 2) := by
  fun_induction items start image generalizing place with
  | case1 address high low rest induction =>
      cases place with
      | zero => simp [Item.ofPiece?]
      | succ place =>
          have next : address + 2 * (place + 1 : Nat) = address + 2 + 2 * place := by omega
          rw [List.getElem?_cons_succ, induction, next, Nat.mul_succ]
          rfl
  | case2 address byte =>
      cases place with
      | zero => simp [Item.ofPiece?]
      | succ place => simp [Item.ofPiece?, Nat.mul_succ]
  | case3 address => simp [Item.ofPiece?]

theorem items_take (start : Int) (image : List UInt8) (count : Nat) :
    items start (image.take (2 * count)) = (items start image).take count := by
  fun_induction items start image generalizing count with
  | case1 address high low rest induction =>
      cases count with
      | zero => rfl
      | succ count =>
          rw [List.take_succ_cons, ← induction, Nat.mul_succ, List.take_succ_cons,
            List.take_succ_cons, items]
  | case2 address byte =>
      cases count with
      | zero => rfl
      | succ count => rw [Nat.mul_succ, List.take_succ_cons, List.take_succ_cons, List.take_nil,
          List.take_nil, items]
  | case3 address => simp only [List.take_nil, items]

theorem items_append {front : List UInt8} (even : front.length % 2 = 0) (start : Int)
    (back : List UInt8) :
    items start (front ++ back) = items start front ++ items (start + front.length) back := by
  fun_induction items start front with
  | case1 address high low rest induction =>
      have length : (high :: low :: rest).length = rest.length + 2 := rfl
      have next : address + ((high :: low :: rest).length : Nat) =
          address + 2 + rest.length := by omega
      change items address (high :: low :: (rest ++ back)) = _
      rw [items, next, List.cons_append, induction (by omega)]
  | case2 address byte => simp at even
  | case3 address => simp

theorem takeWhile_eq_take {α : Type} {test : α → Bool} {values : List α} {count : Nat}
    (holds : ∀ place value, values[place]? = some value → (test value = true ↔ place < count)) :
    values.takeWhile test = values.take count := by
  induction values generalizing count with
  | nil => simp
  | cons value rest induction =>
      have first := holds 0 value rfl
      cases count with
      | zero =>
          have fails : ¬ test value = true := fun passes => Nat.not_lt_zero _ (first.1 passes)
          rw [List.takeWhile_cons_of_neg fails, List.take_zero]
      | succ count =>
          have others : rest.takeWhile test = rest.take count := induction fun place value found =>
            (holds (place + 1) value found).trans Nat.succ_lt_succ_iff
          rw [List.takeWhile_cons_of_pos (first.2 (Nat.succ_pos count)), others,
            List.take_succ_cons]

/-- Items as they follow each other from an address on. -/
def Placed (start : Int) (listed : List Item) : Prop :=
  ∀ (place : Nat) (item : Item), listed[place]? = some item → item.address = start + 2 * place

theorem items_placed (start : Int) (image : List UInt8) : Placed start (items start image) := by
  intro place item found
  rw [getElem?_items] at found
  exact (Item.ofPiece?_eq_some found).1

theorem Placed.take {listed : List Item} (placed : Placed start listed) (count : Nat) :
    Placed start (listed.take count) := by
  intro place item found
  rw [List.getElem?_take] at found
  split at found
  · exact placed place item found
  · cases found

/-- A limit in bytes lets through the items that start before it. -/
theorem Placed.takeWhile_near {listed : List Item} (placed : Placed start listed) (limit : Int) :
    listed.takeWhile (fun item => item.address - start < limit) =
      listed.take ((limit + 1) / 2).toNat := by
  apply takeWhile_eq_take
  intro place item found
  rw [decide_eq_true_eq, placed place item found]
  omega

/-- A number, or the bound on it where that is less. -/
def atMost (bound : Option Nat) (number : Nat) : Nat := bound.elim number (min · number)

theorem atMost_le (bound : Option Nat) (number : Nat) : atMost bound number ≤ number := by
  cases bound with
  | none => exact Nat.le_refl _
  | some most => exact Nat.min_le_right ..

/-- How many items are listed of an image of so many bytes. -/
def quota (length : Nat) (count maxBytes : Option Int) : Nat :=
  atMost (count.map Int.toNat)
    (atMost (maxBytes.map fun limit => ((limit + 1) / 2).toNat) ((length + 1) / 2))

theorem list_eq_take (image : List UInt8) (start : Int) (count maxBytes : Option Int) :
    list image start count maxBytes =
      (items start image).take (quota image.length count maxBytes) := by
  have placed := items_placed start image
  cases count with
  | none =>
      cases maxBytes with
      | none =>
          change items start image = (items start image).take ((image.length + 1) / 2)
          rw [← length_items start image, List.take_length]
      | some limit =>
          change (items start image).takeWhile _ = _
          rw [placed.takeWhile_near, List.take_eq_take_iff, length_items]
          simp [quota, atMost]
  | some few =>
      cases maxBytes with
      | none =>
          change (items start image).take few.toNat = _
          rw [List.take_eq_take_iff, length_items]
          simp [quota, atMost]
      | some limit =>
          change ((items start image).take few.toNat).takeWhile _ = _
          rw [(placed.take _).takeWhile_near, List.take_take, List.take_eq_take_iff, length_items]
          simp only [quota, atMost, Option.map_some, Option.elim_some]
          omega

theorem quota_le (length : Nat) (count maxBytes : Option Int) :
    quota length count maxBytes ≤ (length + 1) / 2 :=
  Nat.le_trans (atMost_le ..) (atMost_le ..)

theorem quota_count (length : Nat) (count : Option Nat) :
    quota length (count.map Int.ofNat) none = atMost count ((length + 1) / 2) := by
  cases count <;> rfl

theorem length_list (image : List UInt8) (start : Int) (count maxBytes : Option Int) :
    (list image start count maxBytes).length = quota image.length count maxBytes := by
  rw [list_eq_take, List.length_take, length_items, Nat.min_eq_left (quota_le ..)]

/-- An item of a listing shows the bytes at twice its place. -/
theorem ofPiece?_of_mem_list {count maxBytes : Option Int} {place : Nat} {item : Item}
    (found : (list image start count maxBytes)[place]? = some item) :
    Item.ofPiece? (start + 2 * place) ((image.drop (2 * place)).take 2) = some item := by
  rw [list_eq_take, List.getElem?_take] at found
  split at found
  · rw [← getElem?_items, found]
  · cases found

theorem flatMap_bytes_list (image : List UInt8) (start : Int) (count maxBytes : Option Int) :
    (list image start count maxBytes).flatMap Item.bytes =
      image.take (2 * quota image.length count maxBytes) := by
  rw [list_eq_take, ← items_take, flatMap_bytes_items]

/-- A listing covers its image: every two bytes are an item, in their order and from the start on,
and a last odd byte is an item of its own.  Behind an even number of bytes a listing starts anew. -/
theorem list_covers_image (image : List UInt8) (start : Int) (count : Option Nat) :
    ∃ listed, walk image (count.map Int.ofNat) none start 0 [] = .ok listed ∧
      listed = list image start (count.map Int.ofNat) none ∧
      listed.length = atMost count ((image.length + 1) / 2) ∧
      (∀ (place : Nat) (item : Item), listed[place]? = some item →
        item.address = start + 2 * place ∧ item.bytes = (image.drop (2 * place)).take 2 ∧
          item.opcode = bigEndian item.bytes ∧
          if 2 * place + 1 = image.length then
            item.size = 1 ∧ item.wording.mnemonic = ".BYTE"
          else item.size = 2) ∧
      listed.flatMap Item.bytes = (count.elim image fun limit => image.take (2 * limit)) ∧
      ∀ back, image.length % 2 = 0 →
        list (image ++ back) start none none =
          list image start none none ++ list back (start + image.length) none none := by
  refine ⟨_, walk_eq_list .., rfl, ?_, ?_, ?_, fun back even => items_append even start back⟩
  · rw [length_list, quota_count]
  · intro place item found
    have inside := (List.getElem?_eq_some_iff.1 found).1
    rw [length_list] at inside
    have near := quota_le image.length (count.map Int.ofNat) none
    obtain ⟨address, bytes, opcode, size⟩ := Item.ofPiece?_eq_some (ofPiece?_of_mem_list found)
    have length : item.size = min 2 (image.length - 2 * place) := by
      rw [Item.size, bytes, List.length_take, List.length_drop]
    refine ⟨address, bytes, bytes ▸ opcode, ?_⟩
    split
    · next last =>
      obtain two | byte := size
      · omega
      · exact byte
    · omega
  · rw [flatMap_bytes_list, quota_count]
    cases count with
    | none => exact List.take_of_length_le (by simp only [atMost, Option.elim_none]; omega)
    | some limit =>
        simp only [atMost, Option.elim_some, List.take_eq_take_iff]
        omega

/-- A byte that is left over is listed after the words before it. -/
theorem list_with_lone_byte :
    ([0x00, 0xE0] : List UInt8).length % 2 = 0 ∧
      list ([0x00, 0xE0] ++ [0x12]) 0x200 none none =
        list [0x00, 0xE0] 0x200 none none ++ list [0x12] 0x202 none none := by
  obtain ⟨-, -, -, -, -, -, joined⟩ := list_covers_image [0x00, 0xE0] 0x200 none
  exact ⟨rfl, joined [0x12] rfl⟩

end ChipEight.Listing
