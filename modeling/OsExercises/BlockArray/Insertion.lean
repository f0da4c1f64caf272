import OsExercises.BlockArray.Refinement

/-! # Overwriting a block of the dynamic array

`insertBlockDynamic` tests its arguments as `addBlockDynamic` does, but it does not return
after a message. -/

namespace OsExercises.BlockArray

open OsExercises

/-- `ar[n]` -/
def pointerAt (ar : List Pointer) (n : Int) : Option Pointer :=
  if 0 ≤ n then ar[n.toNat]? else none

/-- The loop `for (; i < bl; i++) ar[n][i] = '\0'` -/
def fillFrom (block : Text) (i bl : Int) : Option Text :=
  if i < bl then
    if 0 ≤ i then fillWithNul block i.toNat (bl - i).toNat else none
  else some block

def noSuchIndex : Text := "No such index!\n".toList

def tooLong : Text := "You are trying to add a string that is to long!\n".toList

/-- What `insertBlockDynamic` prints. -/
def insertMessages (n al bl : Int) (s : Text) : List Text :=
  (if n < 0 ∨ n ≥ al then [noSuchIndex] else []) ++
    -- The comparison converts `bl - 1` to `size_t`.
    if (strlen s : Int) > (bl - 1) % 2 ^ 64 then [tooLong] else []

/-- The messages and the blocks afterwards. -/
def insertBlockDynamic (n al bl : Int) (s : Text) (ar : List Pointer) (heap : Heap) :
    Option (List Text × Heap) := do
  let messages := insertMessages n al bl s
  -- Whatever was printed, the loop and `strcpy` write to `ar[n]`.
  let pointer ← pointerAt ar n
  let block ← heap pointer
  let block ← fillFrom block (int32 (strlen s)) bl
  let block ← strcpy block s
  some (messages, Function.update heap pointer (some block))

/-- An array of `al` blocks of `bl` bytes. -/
structure BlocksOf (al bl : Int) (ar : List Pointer) (heap : Heap) : Prop where
  length : (ar.length : Int) = al
  distinct : ar.Nodup
  blocks : ∀ pointer ∈ ar, ∃ block, heap pointer = some block ∧ (block.length : Int) = bl

/-- A call with a message changes nothing; one without overwrites block `n` and no other. -/
def AtomicInsertion (n al bl : Int) (s : Text) (ar : List Pointer) (heap : Heap) : Prop :=
  if insertMessages n al bl s = [] then
    ∃ after, insertBlockDynamic n al bl s ar heap = some ([], after) ∧
      ar.map after = (ar.map heap).set n.toNat (some (padded bl s)) ∧
      ∀ pointer ∉ ar, after pointer = heap pointer
  else insertBlockDynamic n al bl s ar heap = some (insertMessages n al bl s, heap)

/-- The order of the two writes does not matter. -/
theorem fillFrom_strcpy {content s : Text} {bl : Int} (size : (content.length : Int) = bl)
    (int : bl < 2 ^ 31) (fits : (strlen s : Int) ≤ bl - 1) :
    ((fillFrom content (int32 (strlen s)) bl).bind fun block => strcpy block s) =
      some (padded bl s) := by
  have start : int32 (strlen s) = strlen s := int32_of_lt (by omega) (by omega)
  have parts : content = content.take (strlen s) ++ content.drop (strlen s) :=
    (List.take_append_drop _ _).symm
  have front : (content.take (strlen s)).length = strlen s := by
    rw [List.length_take]
    omega
  have rounds : (bl - strlen s).toNat = (content.drop (strlen s)).length := by
    rw [List.length_drop]
    omega
  have filled := fillWithNul_replicate (content.take (strlen s)) (content.drop (strlen s))
  rw [← parts, front, ← rounds] at filled
  have whole : (content.take (strlen s) ++
      List.replicate (bl - strlen s).toNat nul).length = content.length := by
    rw [List.length_append, front, List.length_replicate]
    omega
  have amount : bl.toNat - strlen s = (bl - strlen s).toNat := by omega
  have first : (bl - strlen s).toNat = (bl - strlen s).toNat - 1 + 1 := by omega
  rw [start, fillFrom, if_pos (by omega), if_pos (by omega), Int.toNat_natCast, filled,
    Option.bind_some, strcpy, if_pos (by omega), padded, amount]
  have behind : (content.take (strlen s) ++ List.replicate (bl - strlen s).toNat nul).drop
      (strlen s + 1) = List.replicate ((bl - strlen s).toNat - 1) nul := by
    rw [List.drop_append, front, List.drop_eq_nil_of_le (by omega), Nat.add_sub_cancel_left,
      List.drop_replicate, List.nil_append]
  rw [behind, ← List.replicate_succ, ← first]

theorem length_fillWithNul {block after : Text} {i left : Nat}
    (filled : fillWithNul block i left = some after) : after.length = block.length := by
  induction left generalizing block i with
  | zero =>
      cases filled
      rfl
  | succ left induction =>
      rcases Option.bind_eq_some_iff.mp filled with ⟨following, stored, rest⟩
      exact (induction rest).trans (length_store stored)

theorem length_fillFrom {block after : Text} {i bl : Int}
    (filled : fillFrom block i bl = some after) : after.length = block.length := by
  unfold fillFrom at filled
  split at filled
  · split at filled
    · exact length_fillWithNul filled
    · cases filled
  · cases filled
    rfl

section Call

variable {n al bl : Int} {s : Text} {ar : List Pointer} {heap : Heap}

theorem insertBlockDynamic_accepted (blocks : BlocksOf al bl ar heap) (int : bl < 2 ^ 31)
    (inside : 0 ≤ n ∧ n < al) (fits : (strlen s : Int) ≤ bl - 1) :
    ∃ pointer, ar[n.toNat]? = some pointer ∧ insertBlockDynamic n al bl s ar heap =
      some ([], Function.update heap pointer (some (padded bl s))) := by
  have length := blocks.length
  have below : n.toNat < ar.length := by omega
  have found : ar[n.toNat]? = some ar[n.toNat] := List.getElem?_eq_getElem below
  rcases blocks.blocks _ (List.getElem_mem below) with ⟨block, allocated, size⟩
  rcases Option.bind_eq_some_iff.mp (fillFrom_strcpy size int fits) with ⟨filled, first, second⟩
  have silent : insertMessages n al bl s = [] := by
    rw [insertMessages, if_neg (by omega), if_neg (by omega)]
    rfl
  refine ⟨ar[n.toNat], found, ?_⟩
  simp only [insertBlockDynamic, pointerAt, if_pos inside.1, found, allocated, first, second,
    silent, Option.bind_eq_bind, Option.bind_some]

/-- A call with a bad index or a long string goes on to write where it must not. -/
theorem insertBlockDynamic_rejected (blocks : BlocksOf al bl ar heap)
    (rejected : ¬ ((0 ≤ n ∧ n < al) ∧ (strlen s : Int) ≤ bl - 1)) :
    insertBlockDynamic n al bl s ar heap = none := by
  rw [Option.eq_none_iff_forall_ne_some]
  intro result called
  rcases Option.bind_eq_some_iff.mp called with ⟨pointer, found, called⟩
  rcases Option.bind_eq_some_iff.mp called with ⟨block, allocated, called⟩
  rcases Option.bind_eq_some_iff.mp called with ⟨filled, first, called⟩
  rcases Option.bind_eq_some_iff.mp called with ⟨copied, second, _⟩
  have length := blocks.length
  have inside : 0 ≤ n ∧ n < al := by
    unfold pointerAt at found
    split at found
    · next nonneg =>
        rcases List.getElem?_eq_some_iff.mp found with ⟨below, _⟩
        omega
    · cases found
  have member : pointer ∈ ar := by
    rw [pointerAt, if_pos inside.1] at found
    exact List.mem_of_getElem? found
  have room : strlen s < filled.length := by
    unfold strcpy at second
    split at second
    · next room => exact room
    · cases second
  rcases blocks.blocks pointer member with ⟨other, present, size⟩
  have same : other = block := Option.some.inj (present.symm.trans allocated)
  have kept := length_fillFrom first
  rw [same] at size
  exact rejected ⟨inside, by omega⟩

/-- The function is atomic exactly when it accepts the index and the string. -/
theorem atomicInsertion_iff (blocks : BlocksOf al bl ar heap) (int : bl < 2 ^ 31) :
    AtomicInsertion n al bl s ar heap ↔ (0 ≤ n ∧ n < al) ∧ (strlen s : Int) ≤ bl - 1 := by
  by_cases accepted : (0 ≤ n ∧ n < al) ∧ (strlen s : Int) ≤ bl - 1
  · refine iff_of_true ?_ accepted
    rcases insertBlockDynamic_accepted blocks int accepted.1 accepted.2 with
      ⟨pointer, found, called⟩
    have silent : insertMessages n al bl s = [] := by
      rw [insertMessages, if_neg (by omega), if_neg (by omega)]
      rfl
    rw [AtomicInsertion, if_pos silent]
    rcases List.getElem?_eq_some_iff.mp found with ⟨below, atPlace⟩
    refine ⟨_, called, ?_, ?_⟩
    · rw [blocks.distinct.map_update, if_pos (List.mem_of_getElem? found), ← atPlace,
        blocks.distinct.idxOf_getElem]
    · intro other absent
      have different : other ≠ pointer := fun same => absent (same ▸ List.mem_of_getElem? found)
      exact Function.update_of_ne different _ _
  · refine iff_of_false ?_ accepted
    have undefined := insertBlockDynamic_rejected blocks accepted
    unfold AtomicInsertion
    rw [undefined]
    split
    · intro inserted
      rcases inserted with ⟨after, called, _⟩
      cases called
    · intro called
      cases called

end Call

def lettersA : Text := ['a', 'a', 'a', 'a', nul]

/-- Three blocks of five bytes. -/
def threeBlocks : Heap := fun pointer => if pointer < 3 then some lettersA else none

theorem blocksOf_threeBlocks : BlocksOf 3 5 [0, 1, 2] threeBlocks where
  length := rfl
  distinct := by decide
  blocks := by
    intro pointer member
    simp only [List.mem_cons, List.not_mem_nil, or_false] at member
    rcases member with rfl | rfl | rfl
    · exact ⟨lettersA, rfl, rfl⟩
    · exact ⟨lettersA, rfl, rfl⟩
    · exact ⟨lettersA, rfl, rfl⟩

/-- Index 3 and a string of five characters: after the message comes a write outside. -/
theorem atomicInsertion_outside :
    insertMessages 3 3 5 ['M', 'a', 'm', 'a'] = [noSuchIndex] ∧
      insertBlockDynamic 3 3 5 ['M', 'a', 'm', 'a'] [0, 1, 2] threeBlocks = none ∧
      ¬ AtomicInsertion 3 3 5 ['M', 'a', 'm', 'a'] [0, 1, 2] threeBlocks ∧
      insertMessages 1 3 5 ['H', 'e', 'l', 'l', 'o'] = [tooLong] ∧
      insertBlockDynamic 1 3 5 ['H', 'e', 'l', 'l', 'o'] [0, 1, 2] threeBlocks = none ∧
      ¬ AtomicInsertion 1 3 5 ['H', 'e', 'l', 'l', 'o'] [0, 1, 2] threeBlocks := by
  have printed : insertMessages 3 3 5 ['M', 'a', 'm', 'a'] = [noSuchIndex] := by decide
  have printedLong : insertMessages 1 3 5 ['H', 'e', 'l', 'l', 'o'] = [tooLong] := by decide
  have outside := @insertBlockDynamic_rejected 3 3 5 ['M', 'a', 'm', 'a'] _ _
    blocksOf_threeBlocks (by decide)
  have long := @insertBlockDynamic_rejected 1 3 5 ['H', 'e', 'l', 'l', 'o'] _ _
    blocksOf_threeBlocks (by decide)
  refine ⟨printed, outside, ?_, printedLong, long, ?_⟩
  · rw [AtomicInsertion, printed, if_neg (List.cons_ne_nil _ _), outside]
    exact nofun
  · rw [AtomicInsertion, printedLong, if_neg (List.cons_ne_nil _ _), long]
    exact nofun

theorem atomicInsertion_inside :
    AtomicInsertion 1 3 5 ['M', 'a', 'm', 'a'] [0, 1, 2] threeBlocks :=
  (atomicInsertion_iff blocksOf_threeBlocks (by decide)).mpr (by decide)

end OsExercises.BlockArray
