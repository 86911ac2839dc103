import ChipEight.Proofs.Coverage

namespace ChipEight.Listing

/-! What a limit in bytes is a limit of.

It counts the items that start before it.  Where the last of them starts on the last byte that the
limit allows, and is a word, its second byte is listed beyond the limit.
-/

variable {image : List UInt8} {start : Int} {count : Option Int} {most : Nat}

/-- How many bytes the items of a listing stand for. -/
def covered : List Item → Nat
  | [] => 0
  | item :: rest => item.size + covered rest

theorem covered_eq (listed : List Item) : covered listed = (listed.flatMap Item.bytes).length := by
  induction listed with
  | nil => rfl
  | cons item rest induction =>
      rw [List.flatMap_cons, List.length_append, ← induction]
      rfl

/-- What a limit of so many bytes is there for: no byte beyond it is listed.  An item stands as far
behind the start as its bytes do in the image. -/
structure Within (start : Int) (most : Nat) (listed : List Item) : Prop where
  sum : covered listed ≤ most
  offsets : ∀ item ∈ listed, ∀ place < item.size, item.address - start + place < most

/-- The last byte that a limit allows is the first of a word, and the count lets it be listed. -/
def Straddles (length : Nat) (count : Option Int) (most : Nat) : Prop :=
  most % 2 = 1 ∧ most < length ∧ ∀ limit ∈ count, (most : Int) < 2 * limit

theorem covered_list (image : List UInt8) (start : Int) (count maxBytes : Option Int) :
    covered (list image start count maxBytes) =
      min (2 * quota image.length count maxBytes) image.length := by
  rw [covered_eq, flatMap_bytes_list, List.length_take]

/-- The listing goes beyond a limit by one byte at most. -/
theorem covered_le_succ (image : List UInt8) (start : Int) (count : Option Int) (most : Nat) :
    covered (list image start count (some most)) ≤ most + 1 := by
  have few : quota image.length count (some most) ≤ (most + 1) / 2 := by
    refine Nat.le_trans (atMost_le ..) ?_
    simp only [atMost, Option.map_some, Option.elim_some]
    omega
  rw [covered_list]
  omega

theorem lt_covered_iff (image : List UInt8) (start : Int) (count : Option Int) (most : Nat) :
    most < covered (list image start count (some most)) ↔ Straddles image.length count most := by
  rw [covered_list, Straddles]
  cases count with
  | none =>
      simp only [quota, atMost, Option.map_none, Option.map_some, Option.elim_none,
        Option.elim_some, reduceCtorEq, Option.mem_def, false_implies, implies_true, and_true]
      omega
  | some limit =>
      simp only [quota, atMost, Option.map_some, Option.elim_some, Option.mem_def,
        Option.some.injEq, forall_eq']
      omega

/-- All bytes of an item are among those that are covered. -/
theorem end_le_covered {maxBytes : Option Int} {item : Item}
    (listed : item ∈ list image start count maxBytes) :
    ∃ offset : Nat, item.address = start + offset ∧ item.bytes = (image.drop offset).take 2 ∧
      offset + item.size ≤ covered (list image start count maxBytes) := by
  obtain ⟨place, found⟩ := List.mem_iff_getElem?.1 listed
  have inside := (List.getElem?_eq_some_iff.1 found).1
  obtain ⟨address, bytes, -, -⟩ := Item.ofPiece?_eq_some (ofPiece?_of_mem_list found)
  have size : item.size = min 2 (image.length - 2 * place) := by
    rw [Item.size, bytes, List.length_take, List.length_drop]
  have near := quota_le image.length count maxBytes
  rw [length_list] at inside
  refine ⟨2 * place, by omega, bytes, ?_⟩
  rw [covered_list]
  omega

theorem within_of_covered (near : covered (list image start count (some most)) ≤ most) :
    Within start most (list image start count (some most)) where
  sum := near
  offsets := by
    intro item listed place inside
    obtain ⟨offset, address, -, last⟩ := end_le_covered listed
    omega

/-- A limit on the bytes is kept unless it ends inside of a word that is listed, and then it is
exceeded by one byte. -/
theorem list_within_iff (image : List UInt8) (start : Int) (count : Option Int) (most : Nat) :
    ∃ listed, walk image count (some most) start 0 [] = .ok listed ∧
      listed = list image start count (some most) ∧
      (∀ item ∈ listed, ∃ offset : Nat, item.address = start + offset ∧
        item.bytes = (image.drop offset).take 2) ∧
      listed.flatMap Item.bytes = image.take (covered listed) ∧
      (Within start most listed ↔ ¬ Straddles image.length count most) ∧
      (Straddles image.length count most → covered listed = most + 1) := by
  have beyond := lt_covered_iff image start count most
  refine ⟨_, walk_eq_list .., rfl, ?_, ?_, ⟨?_, ?_⟩, ?_⟩
  · intro item listed
    obtain ⟨offset, address, bytes, -⟩ := end_le_covered listed
    exact ⟨offset, address, bytes⟩
  · rw [covered_list, flatMap_bytes_list, List.take_eq_take_iff]
    omega
  · intro within straddles
    exact absurd (beyond.2 straddles) (Nat.not_lt.2 within.sum)
  · intro apart
    exact within_of_covered (Nat.not_lt.1 fun far => apart (beyond.1 far))
  · intro straddles
    exact Nat.le_antisymm (covered_le_succ ..) (beyond.2 straddles)

/-- Of two words, a limit of three bytes lists both, unless only one is wanted. -/
theorem limit_amid_word :
    Straddles 4 none 3 ∧ covered (list [0x00, 0xE0, 0x00, 0xEE] 0x200 none (some 3)) = 4 ∧
      ¬ Straddles 4 (some 1) 3 ∧
      Within 0x200 3 (list [0x00, 0xE0, 0x00, 0xEE] 0x200 (some 1) (some 3)) := by
  have straddles : Straddles 4 none 3 := ⟨rfl, by omega, by simp⟩
  have apart : ¬ Straddles 4 (some 1) 3 := fun wanted => by
    have := wanted.2.2 1 rfl
    omega
  obtain ⟨_, -, rfl, -, -, -, beyond⟩ :=
    list_within_iff [0x00, 0xE0, 0x00, 0xEE] 0x200 none 3
  obtain ⟨_, -, rfl, -, -, within, -⟩ :=
    list_within_iff [0x00, 0xE0, 0x00, 0xEE] 0x200 (some 1) 3
  exact ⟨straddles, beyond straddles, apart, within.2 apart⟩

/-- A limit of one byte lists the two bytes of a word. -/
theorem list_beyond_limit :
    ∃ listed, list [0x00, 0xE0] 0x200 none (some 1) = listed ∧ covered listed = 2 ∧
      ¬ Within 0x200 1 listed :=
  ⟨_, rfl, rfl, fun within => Nat.not_lt.2 within.sum Nat.one_lt_two⟩

end ChipEight.Listing
